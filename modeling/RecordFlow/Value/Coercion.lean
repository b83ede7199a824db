import RecordFlow.Value.Path
import RecordFlow.Text.Case

/-!
# Reading a value as something else

The rules by which a value counts as true, as text, as a number, and by which two
values are equal.

A string is never equal to a number, and two arrays or objects are never equal; but a
numeric string counts as a number where a number is wanted.

## Main definitions

* `Value.isTruthy`, `Value.isMissing` — truth, and absence.
* `Value.toText`, `Value.display` — the text of a value, with null spelled out or not.
* `Value.toNumber?` — the number that a value counts as.
* `Value.sameAs` — strict equality.
-/

namespace RecordFlow

/-- **How a number is written in a text:** positionally for magnitudes from a
millionth up to `10 ^ 21`, and without a fraction when it is integral. -/
def plainLayout : DecimalLayout :=
  { least := -6, beyond := 21, pointZero := false, plusSign := true, tieUp := true }

/-- The text of an integer. -/
def intText (n : Int) : List Char :=
  (if n < 0 then ['-'] else []) ++ Nat.toDigits 10 n.natAbs

/-- **The text of a floating-point number.** -/
def Binary64.plainText (x : Binary64) : List Char :=
  if x.isExactInteger then intText x.toInt
  else
    match x with
    | nan => ['N', 'a', 'N']
    | infinite s => (if s then ['-'] else []) ++ "Infinity".toList
    | finite s m e _ => plainLayout.render s m e

/-- The text of a number. -/
def Number.text : Number → List Char
  | int n => intText n
  | float x => x.plainText

namespace Value

mutual

/-- **The text of a value.**  The items of an array are separated by commas, null items
being empty. -/
def toText : Value → List Char
  | null => ['n', 'u', 'l', 'l']
  | bool true => ['t', 'r', 'u', 'e']
  | bool false => ['f', 'a', 'l', 's', 'e']
  | num n => n.text
  | str s => s.toList
  | arr items => Text.joinWith [','] (itemTexts items)
  | obj _ => "[object Object]".toList

/-- The texts of the items of an array; those that are null are empty. -/
def itemTexts : List Value → List (List Char)
  | [] => []
  | null :: rest => [] :: itemTexts rest
  | item :: rest => toText item :: itemTexts rest

end

@[simp] theorem toText_str (s : String) : (str s).toText = s.toList := rfl

@[simp] theorem toText_text (s : List Char) : (text s).toText = s :=
  String.toList_ofList

/-- **The text that a value shows:** null shows nothing. -/
def display : Value → List Char
  | null => []
  | v => v.toText

/-- **Truth.**  Null, false, zero and the empty string are false; every array and every
object is true. -/
def isTruthy : Value → Bool
  | null => false
  | bool b => b
  | num n => !n.toBinary64.isZero && n.toBinary64 != .nan
  | str s => !s.isEmpty
  | arr _ => true
  | obj _ => true

/-- Whether the value is null or the empty string; zero and false are neither. -/
def isMissing : Value → Bool
  | null => true
  | str s => s.isEmpty
  | _ => false

end Value

/-- **The finite number that a text spells,** white space around it aside. -/
def numberOfText? (s : List Char) : Option Binary64 :=
  (readNumber? (Text.trim s)).filter (·.isFinite)

namespace Value

/-- **The number that a value counts as.**  Booleans count as one and zero. -/
def toNumber? : Value → Option Binary64
  | num n => some n.toBinary64
  | bool b => some (.ofNat (if b then 1 else 0))
  | str s => numberOfText? s.toList
  | _ => none

/-- **Strict equality:** same kind and same value, with numbers compared numerically.
Arrays and objects equal nothing, themselves included. -/
def sameAs : Value → Value → Bool
  | null, null => true
  | bool a, bool b => a == b
  | num a, num b => a.toBinary64.eq b.toBinary64
  | str a, str b => a == b
  | _, _ => false

/-- The numbers of two values, when both are numbers. -/
def numbers? : Value → Value → Option (Binary64 × Binary64)
  | num a, num b => some (a.toBinary64, b.toBinary64)
  | _, _ => none

end Value

end RecordFlow
