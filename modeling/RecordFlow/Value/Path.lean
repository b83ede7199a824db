import RecordFlow.Value.Basic

/-!
# Paths into values

A path is a text of segments separated by points.  A segment names a field of an
object, or is the index of an item of an array.

Reading follows the segments as far as they lead.  Writing also makes its way through
what is missing: a field that is absent or null becomes an object.  It never changes
the length of an array, nor goes through a boolean, a number or a string.

## Main definitions

* `segments` — the segments of a path.
* `indexOf?` — the array index that a segment spells.
* `Value.resolve?` — what stands at a path, if the path leads anywhere.
* `Value.resolve` — the same, with null where the path leads nowhere.
* `Value.write` — a value written under segments, in place.
* `Value.put` — the value with another one written under segments, or why not.
* `WriteObstacle` — why a value could not be written.
-/

namespace RecordFlow

/-- The segments of a path. -/
def segments (path : String) : List String :=
  (Text.splitOn ['.'] path.toList).map String.ofList

/-- **The array index that a segment spells,** in ASCII digits with at most one plus
sign before them. -/
def indexOf? (segment : String) : Option Nat :=
  (readCount? segment.toList).filter (· < 2 ^ 64)

namespace Value

/-- What stands under one segment. -/
def child? (v : Value) (segment : String) : Option Value :=
  match v with
  | obj fields => Fields.get? fields segment
  | arr items => (indexOf? segment).bind fun i => items[i]?
  | _ => none

/-- What the segments lead to. -/
def follow? : Value → List String → Option Value
  | v, [] => some v
  | v, segment :: rest => (v.child? segment).bind (follow? · rest)

/-- **What stands at a path,** if the path leads anywhere. -/
def resolve? (v : Value) (path : String) : Option Value :=
  v.follow? (segments path)

/-- What stands at a path, and null where the path leads nowhere. -/
def resolve (v : Value) (path : String) : Value :=
  (v.resolve? path).getD null

end Value

/-- **Why a value could not be written** under a segment. -/
inductive WriteObstacle where
  /-- The segment is no index into the array of this length that stands there. -/
  | badIndex (segment : String) (length : Nat)
  /-- What stands there is neither an object nor an array. -/
  | notContainer (segment : String)
deriving DecidableEq

/-- The obstacle in words, for a write at the given path. -/
def WriteObstacle.message (path : String) : WriteObstacle → String
  | badIndex segment length =>
    "Cannot write '" ++ path ++ "': '" ++ segment ++ "' is not an index into an array of "
      ++ toString length
  | notContainer segment =>
    "Cannot write '" ++ path ++ "': '" ++ segment ++ "' is not inside an object"

namespace Value

/-- What a write continues in: a value that is absent or null counts as an empty
object. -/
def opened : Option Value → Value
  | none => obj []
  | some null => obj []
  | some v => v

/-- **Write a value under the segments, in place:** the value as the write leaves it,
and what got in its way, if anything did.  The objects that the write opens on its way
stay open if something gets in its way further down.  The value itself is not opened, so
nothing can be written into null. -/
def write : Value → List String → Value → Value × Option WriteObstacle
  | _, [], new => (new, none)
  | obj fields, segment :: rest, new =>
    let (inner, obstacle) := write (opened (Fields.get? fields segment)) rest new
    (obj (Fields.insert fields segment inner), obstacle)
  | arr items, segment :: rest, new =>
    match (indexOf? segment).bind fun i => items[i]?.map (i, ·) with
    | none => (arr items, some (.badIndex segment items.length))
    | some (i, item) =>
      let (inner, obstacle) := write (opened (some item)) rest new
      (arr (items.set i inner), obstacle)
  | v, segment :: _, _ => (v, some (.notContainer segment))

/-- **Write a value under the segments, or not at all:** the value with the other one
written, or what gets in the way. -/
def put : Value → List String → Value → Except WriteObstacle Value
  | _, [], new => .ok new
  | obj fields, segment :: rest, new =>
    (put (opened (Fields.get? fields segment)) rest new).map fun inner =>
      obj (Fields.insert fields segment inner)
  | arr items, segment :: rest, new =>
    match (indexOf? segment).bind fun i => items[i]?.map (i, ·) with
    | none => .error (.badIndex segment items.length)
    | some (i, item) =>
      (put (opened (some item)) rest new).map fun inner => arr (items.set i inner)
  | _, segment :: _, _ => .error (.notContainer segment)

end Value

end RecordFlow
