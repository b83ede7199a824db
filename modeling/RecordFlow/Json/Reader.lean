import RecordFlow.Json.Tree
import RecordFlow.Value.Shape

/-!
# Reading JSON

A text is read for a purpose.  Where any data will do, the whole tree is understood; of two
fields of one name the later counts.  A record is read for its known fields: each of them may
stand there once, and fields of other names are passed over, whatever is in them, as long as it
is written well.

The number of containers that are understood inside each other is limited, as what is read this
way is read by a recursion.  What is passed over does not count.

## Main definitions

* `Json.Tree.value?` — the value of a tree that is for something.
* `Json.readAs?` — the value that a text spells, read for something.
* `Json.read?` — the value that a text spells.
-/

namespace RecordFlow.Json

namespace Tree

mutual

/-- **The value of a tree** that is for something, with so many levels left. -/
def value? (shape : Shape) : Nat → Tree → Option Value
  | _, scalar v => v
  | _, string s => s.map .text
  | 0, array _ => none
  | levels + 1, array items =>
    match shape with
    | .record known => (positionValues? known levels items).map .arr
    | _ => (itemValues? shape.ofItem levels items).map .arr
  | 0, object _ => none
  | levels + 1, object fields =>
    match shape with
    | .record known =>
      (knownValues? known levels fields).map fun pairs => .obj (Fields.ofList pairs)
    | .choice =>
      if fields.length = 1 then
        (fieldValues? levels fields).map fun pairs => .obj (Fields.ofList pairs)
      else none
    | _ => (fieldValues? levels fields).map fun pairs => .obj (Fields.ofList pairs)

/-- The values of the items of an array. -/
def itemValues? (shape : Shape) : Nat → List Tree → Option (List Value)
  | _, [] => some []
  | levels, item :: rest => do
    let value ← value? shape levels item
    let values ← itemValues? shape levels rest
    return value :: values

/-- The values of the fields of a record that is written as an array, in the order of the known
names. -/
def positionValues? (known : List (String × Shape)) : Nat → List Tree → Option (List Value)
  | _, [] => some []
  | levels, item :: rest => do
    let value ← value? ((known.head?.map (·.2)).getD .data) levels item
    let values ← positionValues? known.tail levels rest
    return value :: values

/-- The values of the fields of an object. -/
def fieldValues? : Nat → List (Option (List Char) × Tree) → Option (List (String × Value))
  | _, [] => some []
  | levels, (name, tree) :: rest => do
    let name ← name
    let value ← value? .data levels tree
    let values ← fieldValues? levels rest
    return (String.ofList name, value) :: values

/-- The values of the known fields of a record, each of which may stand there once. -/
def knownValues? (known : List (String × Shape)) :
    Nat → List (Option (List Char) × Tree) → Option (List (String × Value))
  | _, [] => some []
  | levels, (name, tree) :: rest => do
    let name := String.ofList (← name)
    let values ← knownValues? known levels rest
    match known.lookup name with
    | none => return values
    | some shape =>
      if values.any (·.1 == name) then none
      else return (name, ← value? shape levels tree) :: values

end

end Tree

/-- The deepest nesting that text from outside may have. -/
def nestingLimit : Nat := 127

/-- **The value that a text from outside spells,** read for something. -/
def readAs? (shape : Shape) (s : List Char) : Option Value :=
  (tree? s).bind (Tree.value? shape nestingLimit)

/-- **The value that a text spells,** nested at most `limit` deep. -/
def readWithin? (limit : Nat) (s : List Char) : Option Value :=
  (tree? s).bind (Tree.value? .data limit)

/-- **The value that a text from outside spells.** -/
def read? (s : List Char) : Option Value :=
  readWithin? nestingLimit s

end RecordFlow.Json
