import RecordFlow.Number.Numeral
import RecordFlow.Value.Basic

/-!
# Plain scalars

A scalar without quotes has its meaning from its text alone: null, a truth value, a
number, or the text itself.  Integers may be written in base two, eight, ten or sixteen,
and are known up to a hundred and twenty-eight bits.  A row of digits with a superfluous
zero in front is a text.

## Main definitions

* `Yaml.Meaning` — what a plain scalar means.
* `Yaml.Meaning.ofText` — the meaning of a text.
* `Yaml.Meaning.value?` — the value with this meaning.
-/

namespace RecordFlow.Yaml

/-- **What a plain scalar means.** -/
inductive Meaning where
  /-- The absent value. -/
  | null
  /-- A truth value. -/
  | bool (b : Bool)
  /-- An integer. -/
  | int (n : Int)
  /-- A floating-point number, which may be infinite or no number. -/
  | float (x : Binary64)
  /-- The text itself. -/
  | text

/-- The words for null. -/
def nullWords : List String :=
  ["", "null", "Null", "NULL", "~"]

/-- The truth value that a word stands for. -/
def boolOfWord? : String → Option Bool
  | "true" | "True" | "TRUE" => some true
  | "false" | "False" | "FALSE" => some false
  | _ => none

/-- A text without the one sign that it may begin with. -/
def dropSign : List Char → List Char
  | '+' :: s => s
  | '-' :: s => s
  | s => s

/-- Whether a text is a row of digits with a superfluous zero in front. -/
def hasSuperfluousZero (s : List Char) : Bool :=
  match dropSign s with
  | '0' :: rest => !rest.isEmpty && rest.all Text.isAsciiDigit
  | _ => false

/-- The value of a digit in some base. -/
def digitIn? (base : Nat) (c : Char) : Option Nat :=
  let value :=
    if '0' ≤ c ∧ c ≤ '9' then c.toNat - 48
    else if 'a' ≤ c ∧ c ≤ 'f' then c.toNat - 87
    else if 'A' ≤ c ∧ c ≤ 'F' then c.toNat - 55
    else base
  if value < base then some value else none

/-- The number that a nonempty row of digits spells in some base. -/
def readInBase? (base : Nat) (s : List Char) : Option Nat :=
  if s.isEmpty then none
  else s.foldlM (fun n c => (digitIn? base c).map (base * n + ·)) 0

/-- The number that a text without a sign spells, with the mark of its base. -/
def readMarked? : List Char → Option Nat
  | '0' :: 'x' :: s => readInBase? 16 s
  | '0' :: 'o' :: s => readInBase? 8 s
  | '0' :: 'b' :: s => readInBase? 2 s
  | _ => none

/-- The number that a text without a sign spells. -/
def readUnsigned? (s : List Char) : Option Nat :=
  (readMarked? s).or (if hasSuperfluousZero s then none else readInBase? 10 s)

/-- The integer that a text spells, if it has at most a hundred and twenty-eight bits. -/
def readInteger? (s : List Char) : Option Int :=
  match s with
  | '-' :: rest => ((readUnsigned? rest).map fun n => -(n : Int)).filter (-2 ^ 127 ≤ ·)
  | '+' :: rest => ((readUnsigned? rest).map fun n => (n : Int)).filter (· < 2 ^ 128)
  | rest => ((readUnsigned? rest).map fun n => (n : Int)).filter (· < 2 ^ 128)

/-- The words for infinity, after a sign. -/
def infinityWords : List (List Char) :=
  [".inf", ".Inf", ".INF"].map String.toList

/-- The words for what is no number. -/
def nanWords : List (List Char) :=
  [".nan", ".NaN", ".NAN"].map String.toList

/-- The finite number that a text spells. -/
def readFinite? (s : List Char) : Option Binary64 :=
  (readNumber? s).filter (·.isFinite)

/-- The floating-point number that a text spells. -/
def readFloat? (s : List Char) : Option Binary64 :=
  if s ∈ nanWords then some .nan
  else
    match s with
    | '-' :: rest => if rest ∈ infinityWords then some (.infinite true) else readFinite? s
    | '+' :: rest =>
      if rest ∈ infinityWords then some (.infinite false)
      else if rest.head? = some '+' ∨ rest.head? = some '-' then none
      else readFinite? rest
    | _ => if s ∈ infinityWords then some (.infinite false) else readFinite? s

/-- **The meaning of a plain scalar.** -/
def Meaning.ofText (s : List Char) : Meaning :=
  let word := String.ofList s
  if word ∈ nullWords then .null
  else
    match boolOfWord? word with
    | some b => .bool b
    | none =>
      match readInteger? s with
      | some n => .int n
      | none =>
        if hasSuperfluousZero s then .text
        else
          match readFloat? s with
          | some x => .float x
          | none => .text

/-- **The value of a plain scalar.**  An integer of more than sixty-four bits has none,
and a number that is not finite is null. -/
def plainValue? (s : List Char) : Option Value :=
  match Meaning.ofText s with
  | .null => some .null
  | .bool b => some (.bool b)
  | .int n => if -2 ^ 63 ≤ n ∧ n < 2 ^ 64 then some (.int n) else none
  | .float x => some (if x.isFinite then .num (.float x) else .null)
  | .text => some (.text s)

end RecordFlow.Yaml
