import RecordFlow.Step.Wording

/-!
# Steps on numbers

Numbers are read out of texts in three ways; numbers, numeric strings and booleans are
rounded and computed with.  A step that computes leaves a value that is no number
alone; a step that reads gives null where there is nothing to read.

## Main definitions

* `Numeric.readFormatted?` — the first numeral in a text with separators and units.
* `Numeric.readLeading?` — the numeral that a text begins with.
* `Numeric.readLeadingInteger?` — the integer that a text begins with.
* `Numeric.roundHalfUp` — the nearest integral number, halves going up.
* `MathOperation.apply` — the result of an operation.
-/

namespace RecordFlow

namespace Numeric

/-- A text with the separators of a numeral in their plain form: the marks between
groups dropped, the decimal point a point, and no white space. -/
def plainForm (decimal thousands s : List Char) : List Char :=
  let s := if thousands.isEmpty ∨ thousands = decimal then s
    else Text.replaceAll thousands [] s
  let s := if decimal.isEmpty ∨ decimal = ['.'] then s
    else Text.replaceAll decimal ['.'] s
  s.filter (!Text.isBlank ·)

/-- **The first numeral in a text** with the given separators, if it is in ASCII digits
and finite. -/
def readFormatted? (decimal thousands s : List Char) : Option Binary64 :=
  ((Numeral.find? Text.isDecimalDigit (plainForm decimal thousands s)).bind
    Numeral.value?).filter (·.isFinite)

/-- **The numeral that a text begins with,** white space before it aside. -/
def readLeading? (s : List Char) : Option Binary64 :=
  (Numeral.scan? Text.isDecimalDigit (Text.trimStart s)).bind fun (n, _) => n.value?

/-- **The integer that a text begins with,** white space before it aside. -/
def readLeadingInteger? (s : List Char) : Option Binary64 :=
  let (negative, unsigned) := Numeral.sign (Text.trimStart s)
  let digits := unsigned.takeWhile Text.isDecimalDigit
  if digits.isEmpty then none else Numeral.value? ⟨negative, digits, [], none⟩

/-- One half. -/
def half : Binary64 :=
  .ofRatio false 1 2

/-- **The nearest integral number,** halves going up: the floor of one half more. -/
def roundHalfUp (x : Binary64) : Binary64 :=
  (x.add half).floor

/-- The power of ten that a number of decimal places stands for.  The number is taken
as a signed one of thirty-two bits. -/
def scale (decimals : Nat) : Binary64 :=
  .powInt (.ofNat 10) (Int.bmod decimals (2 ^ 32))

/-- A number rounded to a number of decimal places. -/
def roundTo (decimals : Nat) (x : Binary64) : Binary64 :=
  (roundHalfUp (x.mul (scale decimals))).div (scale decimals)

/-- One hundred. -/
def hundred : Binary64 :=
  .ofNat 100

end Numeric

/-- **The result of an operation.**  There is none for a division by zero. -/
def MathOperation.apply (op : MathOperation) (x y : Binary64) : Value :=
  match op with
  | add => .ofBinary64 (x.add y)
  | subtract => .ofBinary64 (x.sub y)
  | multiply => .ofBinary64 (x.mul y)
  | divide => if y.isZero then .null else .ofBinary64 (x.div y)
  | modulo => if y.isZero then .null else .ofBinary64 (x.rem y)
  | power => .ofBinary64 (x.pow y)

/-- A function of numbers applied to a value that counts as a number; any other value
stays as it is. -/
def Value.mapNumber (f : Binary64 → Binary64) (v : Value) : Value :=
  match v.toNumber? with
  | some x => .ofBinary64 (f x)
  | none => v

namespace Step

/-- The first numeral of a string, read with the separators of the options.  Groups are
set off by commas, or by points where the comma is the decimal point. -/
def parseNumber (o : Options) : Value → Value
  | .num n => .num n
  | .str s =>
    let decimal := chars o.decimalSeparator "."
    let thousands := chars o.thousandsSeparator (if decimal = [','] then "." else ",")
    (Numeric.readFormatted? decimal thousands s.toList).elim .null .ofBinary64
  | _ => .null

/-- The numeral that the text of a value begins with. -/
def parseFloat : Value → Value
  | .num n => .num n
  | v => (Numeric.readLeading? v.toText).elim .null .ofBinary64

/-- The integer that the text of a value begins with; a number loses its fraction. -/
def parseInt : Value → Value
  | .num n => .ofBinary64 n.toBinary64.trunc
  | v => (Numeric.readLeadingInteger? v.toText).elim .null .ofBinary64

/-- A number rounded to decimal places. -/
def round (o : Options) : Value → Value :=
  Value.mapNumber (Numeric.roundTo (o.decimals.getD 0))

/-- A number rounded down. -/
def floor : Value → Value :=
  Value.mapNumber Binary64.floor

/-- A number rounded up. -/
def ceil : Value → Value :=
  Value.mapNumber Binary64.ceil

/-- A number without its sign. -/
def abs : Value → Value :=
  Value.mapNumber Binary64.abs

/-- An amount in hundredths, rounded. -/
def toCents : Value → Value :=
  Value.mapNumber fun x => Numeric.roundHalfUp (x.mul Numeric.hundred)

/-- An amount from hundredths. -/
def fromCents : Value → Value :=
  Value.mapNumber fun x => x.div Numeric.hundred

/-- An operation on a number, when both the operation and its operand are set. -/
def math (o : Options) (v : Value) : Value :=
  match o.operation, o.operand, v.toNumber? with
  | some op, some y, some x => op.apply x y
  | _, _, _ => v

end Step

end RecordFlow
