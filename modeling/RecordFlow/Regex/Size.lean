import RecordFlow.Number.Power
import RecordFlow.Regex.Pattern

/-!
# The size of a regular expression

A pattern is accepted only if a machine for it that works on the bytes of a text, and is
built part by part, stays within ten mebibytes.  The machine has a state for every byte
that it takes, for every choice between ways, and for every place that it keeps; a
repetition with bounds holds a copy of its body for each time.

A set of characters takes the bytes of their encoding, from one to four each.  The
encodings of an interval are made up of rows of intervals of bytes, and rows with the
same beginning share its states.

## Main definitions

* `byteRows` — the encodings of an interval of code points, as rows of intervals.
* `CharSet.byteStates`, `CharSet.size` — the states and the size of a set.
* `Pattern.size` — the size of a pattern, and `Pattern.sizeLimit` — the greatest one.
-/

namespace RecordFlow.Regex

/-- **A row of intervals of bytes,** one for each byte of an encoding. -/
abbrev ByteRow := List (Nat × Nat)

/-- The rows of the numbers from `least` to `greatest` in so many digits to the base
sixty-four.  The first digit is offset by `mark`, and the others by 128. -/
def digitRows (mark : Nat) : Nat → Nat → Nat → List ByteRow
  | 0, least, greatest => [[(mark + least, mark + greatest)]]
  | n + 1, least, greatest =>
    let block := 64 ^ (n + 1)
    let first := least / block
    let last := greatest / block
    let under (digit : Nat) (rows : List ByteRow) : List ByteRow :=
      rows.map ((mark + digit, mark + digit) :: ·)
    if first = last then under first (digitRows 128 n (least % block) (greatest % block))
    else
      let headCut := least % block != 0
      let tailCut := greatest % block != block - 1
      let from' := if headCut then first + 1 else first
      let to' := if tailCut then last - 1 else last
      (if headCut then under first (digitRows 128 n (least % block) (block - 1)) else []) ++
        (if from' ≤ to' then
          [(mark + from', mark + to') :: List.replicate (n + 1) (128, 191)] else []) ++
        (if tailCut then under last (digitRows 128 n 0 (greatest % block)) else [])

/-- The code points with encodings of one length, and those that stand for no
character left out: the least and the greatest of a stretch, the mark of the first byte
and the number of bytes after it. -/
def encodingStretches : List (Nat × Nat × Nat × Nat) :=
  [(0, 0x7F, 0, 0), (0x80, 0x7FF, 0xC0, 1), (0x800, 0xD7FF, 0xE0, 2),
    (0xE000, 0xFFFF, 0xE0, 2), (0x10000, 0x10FFFF, 0xF0, 3)]

/-- **The encodings of an interval of code points.** -/
def byteRows (least greatest : Nat) : List ByteRow :=
  encodingStretches.flatMap fun (lower, upper, mark, more) =>
    let least := max lower least
    let greatest := min upper greatest
    if least ≤ greatest then digitRows mark more least greatest else []

/-- The number of intervals that two rows have in common at their beginning. -/
def commonStart : ByteRow → ByteRow → Nat
  | a :: s, b :: t => if a = b then commonStart s t + 1 else 0
  | _, _ => 0

/-- The states of rows in order, after a row: those of the beginning that a row shares
with the one before it are there already. -/
def rowStates (before : ByteRow) : List ByteRow → Nat
  | [] => 0
  | row :: rest => (row.length - commonStart before row) + rowStates row rest

/-- The size of a state. -/
def stateSize : Nat := 32

namespace CharSet

/-- The encodings of the members of a set. -/
def byteRows (s : CharSet) : List ByteRow :=
  s.intervals.flatMap fun (least, greatest) => Regex.byteRows least greatest

/-- The number of states for the encodings of the members. -/
def byteStates (s : CharSet) : Nat :=
  rowStates [] s.byteRows

/-- Whether the set has one member only. -/
def isSingle (s : CharSet) : Bool :=
  match s.intervals with
  | [(least, greatest)] => least == greatest
  | _ => false

/-- **The size of a set.**  A set of ASCII characters is one state with a way for each
interval; any other set of several characters is a choice between its rows. -/
def size (s : CharSet) : Nat :=
  if s.intervals.isEmpty then stateSize
  else if s.isSingle then stateSize * s.byteStates
  else if s.isAscii then 2 * stateSize + 8 * s.intervals.length
  else (2 + s.byteStates) * stateSize + 4 * s.byteRows.length

end CharSet

namespace Pattern

/-- Whether the pattern never takes a character. -/
def takesNothing : Pattern → Bool
  | empty => true
  | set _ => false
  | assertion _ => true
  | seq p q => p.takesNothing && q.takesNothing
  | either p q => p.takesNothing && q.takesNothing
  | repeated p _ most _ => most == some 0 || p.takesNothing
  | group _ p => p.takesNothing

/-- The number of copies of the body of a repetition, and of the choices beside them.
What takes nothing is repeated once at most. -/
def copyCounts (body : Pattern) (least : Nat) (most : Option Nat) : Nat × Nat :=
  let least := if body.takesNothing then min least 1 else least
  let most := if body.takesNothing then some (min (most.getD 1) 1) else most
  match most with
  | some most => (max least most, most - least)
  | none => (max least 1, if least = 0 ∧ body.mayBeEmpty then 3 else 1)

/-- **The size of a pattern.** -/
def size : Pattern → Nat
  | empty => stateSize
  | set s => s.size
  | assertion _ => stateSize
  | seq p q => p.size + q.size
  | either p q => p.size + q.size + 2 * stateSize + 8
  | repeated p least most _ =>
    let (copies, choices) := copyCounts p least most
    p.size * copies + (stateSize + 8) * choices + stateSize
  | group _ p => p.size + 2 * stateSize

/-- The greatest size of a pattern that is accepted. -/
def sizeLimit : Nat := 10 * 2 ^ 20

end Pattern

end RecordFlow.Regex
