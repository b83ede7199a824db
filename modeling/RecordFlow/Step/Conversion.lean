import RecordFlow.Json.Printer
import RecordFlow.Json.Reader
import RecordFlow.Step.Wording

/-!
# Steps that change the kind of a value

Values become booleans, strings, numbers or arrays, and go to JSON text and back.

## Main definitions

* `Conversion.readBoolean?` — the truth value that a word stands for.
* `Conversion.readAnyNumber?` — the number that a text spells, in any of four bases.
* `Step.toJson`, `Step.parseJson` — a value as JSON text, and back.
-/

namespace RecordFlow

namespace Conversion

/-- The words for true. -/
def trueWords : List String :=
  ["true", "1", "yes", "y", "on"]

/-- The words for false. -/
def falseWords : List String :=
  ["false", "0", "no", "n", "off"]

/-- A text without the white space around it, in lower case. -/
def folded (s : List Char) : List Char :=
  Text.lower (Text.trim s)

/-- The words in the form in which they are compared; the usual ones are in it
already. -/
def comparable (configured : Option (List String)) (usual : List String) :
    List (List Char) :=
  match configured with
  | some words => words.map fun w => folded w.toList
  | none => usual.map String.toList

/-- **The truth value that a word stands for;** a word in both lists is true. -/
def readBoolean? (trueList falseList : List (List Char)) (s : List Char) : Option Bool :=
  if trueList.contains (folded s) then some true
  else if falseList.contains (folded s) then some false
  else none

/-- The value of a digit in a base of at most sixteen. -/
def digitIn? (base : Nat) (c : Char) : Option Nat :=
  (Json.hexValue? c).filter (· < base)

/-- The number that a nonempty row of digits spells in a base. -/
def readInBase? (base : Nat) (s : List Char) : Option Nat :=
  if s.isEmpty then none
  else s.foldlM (fun n c => (digitIn? base c).map (base * n + ·)) 0

/-- The base that the two characters after a zero announce. -/
def baseOf? : List Char → Option (Nat × List Char)
  | '0' :: c :: rest =>
    if c = 'x' ∨ c = 'X' then some (16, rest)
    else if c = 'o' ∨ c = 'O' then some (8, rest)
    else if c = 'b' ∨ c = 'B' then some (2, rest)
    else none
  | _ => none

/-- **The number that a text spells:** zero for a blank text, a number of sixty-four
bits in base sixteen, eight or two after its mark, and a decimal number otherwise. -/
def readAnyNumber? (s : List Char) : Option Binary64 :=
  let t := Text.trim s
  if t.isEmpty then some (.zero false)
  else
    match baseOf? t with
    | some (base, digits) =>
      let unsigned := match digits with
        | '+' :: rest => rest
        | _ => digits
      ((readInBase? base unsigned).filter (· < 2 ^ 64)).map .ofNat
    | none => numberOfText? t

end Conversion

namespace Step

/-- The truth value that the text of a value stands for, or null. -/
def parseBoolean (o : Options) : Value → Value
  | .bool b => .bool b
  | .null => .null
  | v =>
    (Conversion.readBoolean? (Conversion.comparable o.trueValues Conversion.trueWords)
      (Conversion.comparable o.falseValues Conversion.falseWords) v.toText).elim .null .bool

/-- Whether a value does not count as true. -/
def negate (v : Value) : Value :=
  .bool !v.isTruthy

/-- Whether a value counts as true. -/
def toBoolean (v : Value) : Value :=
  .bool v.isTruthy

/-- The text of a value: that of an array or object is its JSON, and that of null is
empty. -/
def toString : Value → Value
  | .null => .str ""
  | .arr items => .text (Json.compact (.arr items))
  | .obj fields => .text (Json.compact (.obj fields))
  | v => .text v.toText

/-- The number that a value stands for, or null. -/
def toNumber : Value → Value
  | .null => .null
  | .num n => .num n
  | .bool b => .int (if b then 1 else 0)
  | .str s => (Conversion.readAnyNumber? s.toList).elim .null .ofBinary64
  | .arr items => (Conversion.readAnyNumber? (Value.arr items).toText).elim .null .ofBinary64
  | .obj _ => .null

/-- An array of the value alone; null gives an empty array, and an array itself. -/
def toArray : Value → Value
  | .arr items => .arr items
  | .null => .arr []
  | v => .arr [v]

/-- A value as JSON text. -/
def toJson (o : Options) (v : Value) : Value :=
  .text (if o.pretty = some true then Json.indented v else Json.compact v)

/-- The value that a string spells as JSON; any other value stays as it is. -/
def parseJson (v : Value) : Value :=
  match v with
  | .str s => (Json.read? s.toList).getD v
  | v => v

end Step

end RecordFlow
