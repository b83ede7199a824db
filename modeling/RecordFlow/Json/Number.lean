import RecordFlow.Value.Basic

/-!
# Numbers in JSON

A number has no plus sign, no superfluous zero in front, and digits on both sides of its point.
One without a point and a power that is in range is an integer.

Any other number is computed in floating point, and not with one rounding only.  The digits are
gathered in an integer of sixty-four bits, as many as fit into it; what is left of them before
the point counts as zeros, and what is left behind it is dropped.  This integer is rounded, and
multiplied or divided by powers of ten with a rounding each.  So a number of seventeen digits
may be read as a neighbour of the nearest one.

    31.245270191439438   is read as   31.24527019143944

## Main definitions

* `Json.gather` — digits gathered in sixty-four bits.
* `Json.scaled?` — a gathered number times a power of ten.
* `Json.numeralValue?` — the value of a numeral.
* `Json.scanNumber?` — the number that a text begins with.
-/

namespace RecordFlow.Json

/-- The integers that are kept as integers: sixty-four bits, with a sign or without. -/
def inIntegerRange (n : Int) : Bool :=
  -2 ^ 63 ≤ n && n < 2 ^ 64

/-- **Digits gathered in sixty-four bits,** behind those that are gathered already, and the
digits that are left from the first one on that does not fit. -/
def gather (significand : Nat) : List Char → Nat × List Char
  | [] => (significand, [])
  | c :: rest =>
    let next := 10 * significand + (c.toNat - 48)
    if next < 2 ^ 64 then gather next rest else (significand, c :: rest)

/-- The greatest power of ten that is multiplied or divided by at once; it is the greatest one
that is finite. -/
def greatestPower : Nat :=
  308

/-- A power of ten. -/
def powerOfTen (places : Nat) : Binary64 :=
  .ofNat (10 ^ places)

/-- A number divided by a power of ten, by the greatest power first as often as need be.
Nothing is left to divide in a zero. -/
def divided (x : Binary64) (places : Nat) : Binary64 :=
  if _h : places ≤ greatestPower then x.div (powerOfTen places)
  else if x.isZero then x
  else divided (x.div (powerOfTen greatestPower)) (places - greatestPower)
termination_by places
decreasing_by
  have hpositive : 0 < greatestPower := by decide
  omega

/-- **A gathered number times a power of ten,** unless it is beyond the finite numbers. -/
def scaled? (significand : Nat) (exponent : Int) : Option Binary64 :=
  let x := Binary64.ofNat significand
  if exponent < 0 then some (divided x exponent.natAbs)
  else if exponent ≤ greatestPower then
    let y := x.mul (powerOfTen exponent.natAbs)
    if y.isFinite then some y else none
  else if x.isZero then some x
  else none

/-- The floating-point number of a numeral.  Each digit before the point that is left counts for
one place more, and each digit behind it that is left for one place less than it was written
with. -/
def floatValue? (n : Numeral) : Option Binary64 :=
  let (whole, left) := gather 0 n.whole
  let (significand, dropped) := gather whole n.fraction
  (scaled? significand (n.exponent + left.length + dropped.length)).map fun x =>
    if n.negative then x.neg else x

/-- The value of a numeral: an integer if it is written without a fraction and a power and is in
range, and otherwise a floating-point number, which must be finite.  The integer zero has no
sign. -/
def numeralValue? (n : Numeral) (isInteger : Bool) : Option Value :=
  let value : Int :=
    if n.negative then -(digitsValue n.whole : Int) else digitsValue n.whole
  if isInteger && inIntegerRange value && !(n.negative && value == 0) then
    some (.int value)
  else (floatValue? n).map fun x => .num (.float x)

/-- **The number that a text begins with,** and what follows it.  A number may have no value
because it is beyond the finite numbers; it is a number all the same. -/
def scanNumber? (s : List Char) : Option (Option Value × List Char) :=
  let unsigned := match s with
    | '-' :: rest => rest
    | _ => s
  let negative := unsigned.length != s.length
  let whole := unsigned.takeWhile Text.isAsciiDigit
  if whole.isEmpty || (whole.head? == some '0' && whole.length != 1) then none
  else
    match unsigned.dropWhile Text.isAsciiDigit with
    | '.' :: rest =>
      let fraction := rest.takeWhile Text.isAsciiDigit
      if fraction.isEmpty then none
      else powerOf ⟨negative, whole, fraction, none⟩ false (rest.dropWhile Text.isAsciiDigit)
    | rest => powerOf ⟨negative, whole, [], none⟩ true rest
where
  /-- Read the power of ten, which must be complete once its letter is there. -/
  powerOf (n : Numeral) (isInteger : Bool) (s : List Char) :
      Option (Option Value × List Char) :=
    match s with
    | c :: _ =>
      if c = 'e' ∨ c = 'E' then
        match Numeral.scanPower Text.isAsciiDigit s with
        | (none, _) => none
        | (some power, after) => some (numeralValue? { n with power := some power } false, after)
      else some (numeralValue? n isInteger, s)
    | [] => some (numeralValue? n isInteger, [])

end RecordFlow.Json
