import RecordFlow.Number.Numeral

/-!
# The shortest decimal of a floating-point number

Of all decimals that read back as a given number, the shortest has the fewest digits,
and among those it is the nearest.  It is found by trying one digit, two digits and so
on: on each grid only the two neighbours of the number can be the nearest point that
reads back, and they are tested in exact arithmetic.

A layout then says how the decimal is written: where positional notation ends, and
whether an integral number keeps a fraction of zero.

## Main definitions

* `Decimal` — a natural number of digits and a power of ten.
* `shortest` — the shortest decimal that reads back.
* `DecimalLayout` — the decisions of a written form.
* `DecimalLayout.render` — the text of a number under a layout.
-/

namespace RecordFlow

/-- **A positive decimal,** `digits · 10 ^ exponent`. -/
structure Decimal where
  /-- The digits, as a natural number. -/
  digits : Nat
  /-- The power of ten. -/
  exponent : Int
deriving DecidableEq

namespace Decimal

/-- Whether the decimal is read back as the number `significand · 2 ^ exponent`. -/
def readsAs (d : Decimal) (x : Binary64) : Bool :=
  Binary64.ofDecimal false d.digits d.exponent == x

/-- The text of the digits. -/
def text (d : Decimal) : List Char :=
  Nat.toDigits 10 d.digits

/-- The power of ten of the leading digit. -/
def leading (d : Decimal) : Int :=
  d.exponent + d.text.length - 1

/-- Move trailing zeros of the digits into the exponent, at most `n` of them. -/
def dropZeros : Nat → Decimal → Decimal
  | 0, d => d
  | n + 1, d =>
    if d.digits ≠ 0 ∧ d.digits % 10 = 0 then dropZeros n ⟨d.digits / 10, d.exponent + 1⟩
    else d

end Decimal

/-- The greatest `k` with `10 ^ k ≤ numerator / denominator`, for positive operands. -/
def floorLog10 (numerator denominator : Nat) : Int :=
  if denominator ≤ numerator then (digitCount (numerator / denominator) : Int) - 1
  else
    let n := digitCount (denominator / numerator)
    if denominator = numerator * 10 ^ (n - 1) then -((n : Int) - 1) else -(n : Int)

/-- The nearer of the two neighbours of `numerator / denominator` on the grid of
multiples of `10 ^ exponent` among those that read back.  When both are equally near,
the greater is taken if `tieUp` holds, and otherwise the even one. -/
def nearestOnGrid? (tieUp : Bool) (x : Binary64) (numerator denominator : Nat)
    (exponent : Int) : Option Decimal :=
  let (n, d) :=
    if 0 ≤ exponent then (numerator, denominator * 10 ^ exponent.toNat)
    else (numerator * 10 ^ (-exponent).toNat, denominator)
  let below : Decimal := ⟨n / d, exponent⟩
  let above : Decimal := ⟨n / d + 1, exponent⟩
  let twice := 2 * (n % d)
  let belowFirst :=
    if twice = d then !tieUp && below.digits % 2 = 0 else twice < d
  let hits (c : Decimal) : Bool := c.digits != 0 && c.readsAs x
  if n % d = 0 ∧ hits below then some below
  else if belowFirst then
    if hits below then some below else if hits above then some above else none
  else
    if hits above then some above else if hits below then some below else none

/-- The first hit on the grids of `count`, `count + 1`, … significant digits, trying
`tries` of them. -/
def firstHit (tieUp : Bool) (x : Binary64) (numerator denominator : Nat) (leading : Int) :
    Nat → Nat → Decimal
  | _, 0 => ⟨0, 0⟩
  | count, tries + 1 =>
    match nearestOnGrid? tieUp x numerator denominator (leading - count + 1) with
    | some d => d.dropZeros 20
    | none => firstHit tieUp x numerator denominator leading (count + 1) tries

/-- **The shortest decimal** that reads back as the magnitude of a finite number; zero
has no digits. -/
def shortest (tieUp : Bool) (significand : Nat) (exponent : Int) : Decimal :=
  if significand = 0 then ⟨0, 0⟩
  else
    let (n, d) := Binary64.scaleDown significand 1 (-exponent)
    firstHit tieUp (Binary64.ofScaled false significand exponent) n d (floorLog10 n d) 1 17

/-- **How a decimal is written.**  Numbers whose leading digit stands for a power of
ten from `least` up to `beyond` (excluded) are written positionally, others with an
explicit power. -/
structure DecimalLayout where
  /-- The least power of ten of a leading digit that is written positionally. -/
  least : Int
  /-- The first power of ten that is not written positionally any more. -/
  beyond : Int
  /-- Whether an integral number in positional notation gets `.0`. -/
  pointZero : Bool
  /-- Whether a positive power gets a plus sign. -/
  plusSign : Bool
  /-- Which way a tie between two shortest decimals goes: up, or to the even one. -/
  tieUp : Bool

namespace DecimalLayout

/-- The digits with the point after the first one, and the power. -/
def scientific (plusSign : Bool) (digits : List Char) (leading : Int) : List Char :=
  let mantissa :=
    match digits with
    | d :: rest@(_ :: _) => d :: '.' :: rest
    | ds => ds
  let power := (toString leading.natAbs).toList
  let sign := if leading < 0 then ['-'] else if plusSign then ['+'] else []
  mantissa ++ 'e' :: sign ++ power

/-- The digits with the point where the exponent puts it. -/
def positional (pointZero : Bool) (digits : List Char) (exponent : Int) : List Char :=
  if 0 ≤ exponent then
    digits ++ List.replicate exponent.toNat '0' ++ (if pointZero then ['.', '0'] else [])
  else
    let places := (-exponent).toNat
    if places < digits.length then
      digits.take (digits.length - places) ++ '.' :: digits.drop (digits.length - places)
    else '0' :: '.' :: List.replicate (places - digits.length) '0' ++ digits

/-- The text of a positive decimal. -/
def ofDecimal (l : DecimalLayout) (d : Decimal) : List Char :=
  if l.least ≤ d.leading ∧ d.leading < l.beyond then
    positional l.pointZero d.text d.exponent
  else scientific l.plusSign d.text d.leading

/-- **The text of a finite number:** its sign and its shortest decimal. -/
def render (l : DecimalLayout) (negative : Bool) (significand : Nat) (exponent : Int) :
    List Char :=
  (if negative then ['-'] else []) ++
    (if significand = 0 then positional l.pointZero ['0'] 0
     else l.ofDecimal (shortest l.tieUp significand exponent))

end DecimalLayout

end RecordFlow
