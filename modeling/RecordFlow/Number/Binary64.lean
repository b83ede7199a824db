import RecordFlow.Number.Power

/-!
# Binary floating-point numbers of 64 bits

The numbers of the interchange format `binary64`, as exact data: a finite number is a
sign, a significand and a power of two.  All arithmetic goes through one rounding
function, `ofRatio`, which takes an exact quotient to the nearest number, ties to the
even significand; so each operation is the exact one followed by one rounding.

## Main definitions

* `Binary64` — not-a-number, the infinities and the finite numbers.
* `Binary64.ofRatio` — the number nearest to an exact quotient.
* `Binary64.ofInt` — the number nearest to an integer.
* `Binary64.add`, `sub`, `mul`, `div`, `rem` — the arithmetic operations.
* `Binary64.floor`, `ceil`, `trunc` — rounding to integers.
* `Binary64.lt`, `le`, `eq` — the numerical comparisons.
-/

namespace RecordFlow

/-- **The canonical form of a finite number:** a significand of at most 53 bits and an
exponent in range, with all 53 bits in use unless the exponent is the least one. -/
def IsCanonical (significand : Nat) (exponent : Int) : Prop :=
  significand < 2 ^ 53 ∧ -1074 ≤ exponent ∧ exponent ≤ 971 ∧
    (2 ^ 52 ≤ significand ∨ exponent = -1074)

instance (significand : Nat) (exponent : Int) :
    Decidable (IsCanonical significand exponent) :=
  inferInstanceAs (Decidable (_ ∧ _))

/-- **A binary floating-point number of 64 bits.** -/
inductive Binary64 where
  /-- No number. -/
  | nan
  /-- An infinity. -/
  | infinite (negative : Bool)
  /-- The number `± significand · 2 ^ exponent`; there is one such form for each
  number, and two for zero. -/
  | finite (negative : Bool) (significand : Nat) (exponent : Int)
      (canonical : IsCanonical significand exponent)
deriving DecidableEq

namespace Binary64

instance : Inhabited Binary64 := ⟨nan⟩

/-- Zero, with a sign. -/
def zero (negative : Bool) : Binary64 :=
  finite negative 0 (-1074) (by decide)

/-- A significand and exponent that are already canonical; a magnitude beyond the
range becomes infinite. -/
def pack (negative : Bool) (significand : Nat) (exponent : Int) : Binary64 :=
  if h : IsCanonical significand exponent then finite negative significand exponent h
  else infinite negative

/-- The quotient rounded to the nearest natural number, ties to the even one. -/
def roundQuotient (numerator denominator : Nat) : Nat :=
  let q := numerator / denominator
  let r := numerator % denominator
  if 2 * r < denominator then q
  else if denominator < 2 * r then q + 1
  else if q % 2 = 0 then q else q + 1

/-- Scale a quotient by a power of two: the numerator and denominator of
`(numerator / denominator) / 2 ^ exponent`. -/
def scaleDown (numerator denominator : Nat) (exponent : Int) : Nat × Nat :=
  if 0 ≤ exponent then (numerator, denominator * 2 ^ exponent.toNat)
  else (numerator * 2 ^ (-exponent).toNat, denominator)

/-- The greatest `k` with `2 ^ k ≤ numerator / denominator`, for positive operands. -/
def floorLog2 (numerator denominator : Nat) : Int :=
  let guess : Int := (numerator.log2 : Int) - (denominator.log2 : Int)
  let (n, d) := scaleDown numerator denominator guess
  if d ≤ n then guess else guess - 1

/-- **The number nearest to `± numerator / denominator`,** ties to the even
significand; a zero numerator gives a zero of that sign. -/
def ofRatio (negative : Bool) (numerator denominator : Nat) : Binary64 :=
  if numerator = 0 then zero negative
  else
    let exponent := max (-1074) (floorLog2 numerator denominator - 52)
    let (n, d) := scaleDown numerator denominator exponent
    let significand := roundQuotient n d
    if significand = 2 ^ 53 then pack negative (2 ^ 52) (exponent + 1)
    else pack negative significand exponent

/-- The number nearest to `± magnitude · 2 ^ exponent`. -/
def ofScaled (negative : Bool) (magnitude : Nat) (exponent : Int) : Binary64 :=
  if 0 ≤ exponent then ofRatio negative (magnitude * 2 ^ exponent.toNat) 1
  else ofRatio negative magnitude (2 ^ (-exponent).toNat)

/-- The number nearest to an integer. -/
def ofInt (n : Int) : Binary64 :=
  ofRatio (n < 0) n.natAbs 1

/-- The number nearest to a natural number. -/
def ofNat (n : Nat) : Binary64 :=
  ofRatio false n 1

/-! ### Sign and magnitude -/

/-- Whether the sign bit is set; not-a-number has none. -/
def isNegative : Binary64 → Bool
  | nan => false
  | infinite s => s
  | finite s _ _ _ => s

/-- The number with the other sign. -/
def neg : Binary64 → Binary64
  | nan => nan
  | infinite s => infinite !s
  | finite s m e h => finite (!s) m e h

/-- The absolute value. -/
def abs : Binary64 → Binary64
  | nan => nan
  | infinite _ => infinite false
  | finite _ m e h => finite false m e h

/-- Whether the number is finite. -/
def isFinite : Binary64 → Bool
  | finite .. => true
  | _ => false

/-- Whether the number is a zero of either sign. -/
def isZero : Binary64 → Bool
  | finite _ m _ _ => m == 0
  | _ => false

/-! ### Arithmetic -/

/-- The sum of two finite numbers, exact, as an integer at the smaller exponent. -/
def exactSum (s₁ : Bool) (m₁ : Nat) (e₁ : Int) (s₂ : Bool) (m₂ : Nat) (e₂ : Int) :
    Int × Int :=
  let e := min e₁ e₂
  let scaled (s : Bool) (m : Nat) (k : Int) : Int :=
    let n : Int := (m * 2 ^ (k - e).toNat : Nat)
    if s then -n else n
  (scaled s₁ m₁ e₁ + scaled s₂ m₂ e₂, e)

/-- **Addition.**  An exact sum of zero is positive, unless both terms are negative
zeros. -/
def add : Binary64 → Binary64 → Binary64
  | nan, _ => nan
  | _, nan => nan
  | infinite s, infinite t => if s = t then infinite s else nan
  | infinite s, finite .. => infinite s
  | finite .., infinite t => infinite t
  | finite s m e _, finite t n f _ =>
    let (total, exponent) := exactSum s m e t n f
    if total = 0 then zero (s && t)
    else ofScaled (total < 0) total.natAbs exponent

/-- **Subtraction.** -/
def sub (x y : Binary64) : Binary64 :=
  add x (neg y)

/-- **Multiplication.** -/
def mul : Binary64 → Binary64 → Binary64
  | nan, _ => nan
  | _, nan => nan
  | infinite s, infinite t => infinite (s != t)
  | infinite s, finite t n _ _ => if n = 0 then nan else infinite (s != t)
  | finite s m _ _, infinite t => if m = 0 then nan else infinite (s != t)
  | finite s m e _, finite t n f _ => ofScaled (s != t) (m * n) (e + f)

/-- **Division.** -/
def div : Binary64 → Binary64 → Binary64
  | nan, _ => nan
  | _, nan => nan
  | infinite _, infinite _ => nan
  | infinite s, finite t _ _ _ => infinite (s != t)
  | finite s _ _ _, infinite t => zero (s != t)
  | finite s m e _, finite t n f _ =>
    if n = 0 then (if m = 0 then nan else infinite (s != t))
    else
      let (num, den) := scaleDown m n (f - e)
      ofRatio (s != t) num den

/-- **The remainder** of the division truncated toward zero; it has the sign of the
dividend and is exact. -/
def rem : Binary64 → Binary64 → Binary64
  | nan, _ => nan
  | _, nan => nan
  | infinite _, _ => nan
  | finite s m e h, infinite _ => finite s m e h
  | finite s m e _, finite _ n f _ =>
    if n = 0 then nan
    else
      let g := min e f
      ofScaled s ((m * 2 ^ (e - g).toNat) % (n * 2 ^ (f - g).toNat)) g

/-! ### Rounding to integers -/

/-- The integer part of the magnitude, and whether anything was cut off. -/
def integerPart (m : Nat) (e : Int) : Nat × Bool :=
  if 0 ≤ e then (m * 2 ^ e.toNat, false)
  else (m / 2 ^ (-e).toNat, m % 2 ^ (-e).toNat != 0)

/-- The number without its fraction. -/
def trunc : Binary64 → Binary64
  | finite s m e h => if 0 ≤ e then finite s m e h else ofRatio s (integerPart m e).1 1
  | x => x

/-- The greatest integral number that is not above this one. -/
def floor : Binary64 → Binary64
  | finite s m e h =>
    if 0 ≤ e then finite s m e h
    else
      let (n, cut) := integerPart m e
      ofRatio s (if s && cut then n + 1 else n) 1
  | x => x

/-- The least integral number that is not below this one. -/
def ceil (x : Binary64) : Binary64 :=
  neg (floor (neg x))

/-- Whether a finite number has no fraction. -/
def isIntegral : Binary64 → Bool
  | finite _ m e _ => !(integerPart m e).2
  | _ => false

/-- The integer that a number has before its fraction, and zero for anything that is
not finite. -/
def toInt : Binary64 → Int
  | finite s m e _ =>
    let n : Int := ((integerPart m e).1 : Nat)
    if s then -n else n
  | _ => 0

/-! ### Comparison -/

/-- The exact difference of two finite numbers has this sign. -/
def compareFinite (s : Bool) (m : Nat) (e : Int) (t : Bool) (n : Nat) (f : Int) :
    Ordering :=
  compare (exactSum s m e (!t) n f).1 0

/-- The numerical order, and `none` when one side is not a number. -/
def compare? : Binary64 → Binary64 → Option Ordering
  | nan, _ => none
  | _, nan => none
  | infinite s, infinite t =>
    some (if s = t then .eq else if s then .lt else .gt)
  | infinite s, finite .. => some (if s then .lt else .gt)
  | finite .., infinite t => some (if t then .gt else .lt)
  | finite s m e _, finite t n f _ => some (compareFinite s m e t n f)

/-- Numerical equality: the two zeros are equal, and not-a-number equals nothing. -/
def eq (x y : Binary64) : Bool :=
  compare? x y == some .eq

/-- Numerically less. -/
def lt (x y : Binary64) : Bool :=
  compare? x y == some .lt

/-- Numerically less or equal. -/
def le (x y : Binary64) : Bool :=
  lt x y || eq x y

/-! ### Powers -/

/-- Repeated squaring: the product of `acc` and the powers of `base` that the binary
digits of `n` select, each product rounded. -/
def powAcc (base acc : Binary64) (n : Nat) : Binary64 :=
  let acc' := if n % 2 = 1 then mul acc base else acc
  if _h : n / 2 = 0 then acc' else powAcc (mul base base) acc' (n / 2)
termination_by n
decreasing_by omega

/-- **An integer power,** by repeated squaring with a rounding after each product; a
negative power is the reciprocal of the positive one. -/
def powInt (base : Binary64) (n : Int) : Binary64 :=
  let p := powAcc base (ofNat 1) n.natAbs
  if n < 0 then div (ofNat 1) p else p

/-! ### The interchange format -/

/-- The sixty-four bits of the interchange format. -/
def toBits : Binary64 → UInt64
  | nan => 0x7FF8000000000000
  | infinite s => .ofNat ((if s then 2 ^ 63 else 0) + 2047 * 2 ^ 52)
  | finite s m e _ =>
    .ofNat ((if s then 2 ^ 63 else 0) +
      (if m < 2 ^ 52 then m else (e + 1075).toNat * 2 ^ 52 + (m - 2 ^ 52)))

/-- The number that sixty-four bits of the interchange format stand for. -/
def ofBits (bits : UInt64) : Binary64 :=
  let n := bits.toNat
  let negative := 2 ^ 63 ≤ n
  let biased : Nat := n / 2 ^ 52 % 2048
  let fraction : Nat := n % 2 ^ 52
  if biased = 2047 then (if fraction = 0 then infinite negative else nan)
  else if biased = 0 then pack negative fraction (-1074)
  else pack negative (2 ^ 52 + fraction) ((biased : Int) - 1075)

/-- **A power with any exponent,** as the machine computes it. -/
def pow (base exponent : Binary64) : Binary64 :=
  ofBits ((Float.ofBits base.toBits).pow (Float.ofBits exponent.toBits)).toBits

end Binary64

end RecordFlow
