import Mathlib.Algebra.Order.Field.Power
import Mathlib.Data.Int.Log
import Mathlib.Data.Rat.Floor
import Mathlib.Tactic.FieldSimp
import Mathlib.Tactic.Linarith
import Mathlib.Tactic.NormNum
import Mathlib.Tactic.Positivity
import Mathlib.Tactic.Ring
import RecordFlow.Number.Binary64

/-!
# What rounding gives

All arithmetic goes through one rounding function, which takes a quotient to a significand of 53
bits and an exponent.  Here it is told in exact rational numbers what it gives
(`exists_roundsTo_ofRatio`): a positive number is divided by the unit of its last place
(`unitExponent`), and what comes out goes to the nearest natural number, a half to the even one
(`IsNearest`).

Three facts about this are all that comparisons of rounded numbers need.

* **Rounding keeps the order** (`RoundsTo.mono`), within a binade because the nearest natural
  number does, and from one binade to another because the boundary between them is not rounded.
* **What has a place for each of its digits stays as it is** (`RoundsTo.eq_of_natCast`).
* **The finite numbers end in the middle** between the greatest of them and the power of two
  above it (`overflowBound`): what is below is rounded to a finite number
  (`RoundsTo.lt_of_lt_overflowBound`), and the middle itself goes up, as the significand below
  it is odd (`RoundsTo.le_of_overflowBound_le`).

## Main definitions

* `IsNearest` — the nearest natural number, ties to even.
* `RoundsTo` — what a positive number is rounded to.
* `Binary64.toRat` — the exact value of a finite number.
-/

namespace RecordFlow

/-! ### The nearest natural number -/

/-- **The natural number nearest to a rational one,** and the even one of two that are equally
near. -/
structure IsNearest (x : ℚ) (k : ℕ) : Prop where
  below : x - 1 / 2 ≤ k
  above : k ≤ x + 1 / 2
  tie : (k : ℚ) = x - 1 / 2 ∨ (k : ℚ) = x + 1 / 2 → Even k

namespace IsNearest

variable {x y : ℚ} {j k : ℕ}

/-- **The nearest natural number keeps the order.** -/
theorem mono (hj : IsNearest x j) (hk : IsNearest y k) (h : x ≤ y) : j ≤ k := by
  by_contra hlt
  have hsucc : k + 1 ≤ j := by omega
  have hcast : (k : ℚ) + 1 ≤ j := by exact_mod_cast hsucc
  -- there is room for two of them in the wrong order only if both are ties, one beside the other
  have hxj := hj.above
  have hyk := hk.below
  have hjx : (j : ℚ) = x + 1 / 2 := by linarith
  have hky : (k : ℚ) = y - 1 / 2 := by linarith
  have hnext : j = k + 1 := by
    have : (j : ℚ) = ((k + 1 : ℕ) : ℚ) := by push_cast; linarith
    exact_mod_cast this
  have heven := hj.tie (Or.inr hjx)
  rw [hnext, Nat.even_add_one] at heven
  exact heven (hk.tie (Or.inl hky))

/-- A natural number is the nearest to itself. -/
theorem natCast (n : ℕ) : IsNearest n n where
  below := by linarith
  above := by linarith
  tie h := by
    rcases h with h | h
    · linarith
    · linarith

theorem le_of_le {n : ℕ} (hk : IsNearest x k) (h : x ≤ n) : k ≤ n :=
  hk.mono (natCast n) h

theorem le_of_ge {n : ℕ} (hk : IsNearest x k) (h : n ≤ x) : n ≤ k :=
  (natCast n).mono hk h

/-- **The middle above an odd number goes up,** to the even one. -/
theorem lt_of_odd {n : ℕ} (hk : IsNearest x k) (hn : Odd n) (h : n + 1 / 2 ≤ x) : n < k := by
  have hbelow := hk.below
  have hle : n ≤ k := by
    have : (n : ℚ) ≤ k := by linarith
    exact_mod_cast this
  refine lt_of_le_of_ne hle ?_
  rintro rfl
  have heven : Even n := hk.tie (Or.inl (by linarith))
  exact Nat.not_even_iff_odd.2 hn heven

/-- Only a natural number itself is nearest to it. -/
theorem eq_of_natCast {n : ℕ} (hk : IsNearest n k) : k = n :=
  le_antisymm (hk.le_of_le le_rfl) (hk.le_of_ge le_rfl)

end IsNearest

namespace Binary64

variable {n d : ℕ} {e : ℤ} {x y : ℚ}

/-- **A quotient is rounded to the nearest natural number.** -/
theorem isNearest_roundQuotient (hd : 0 < d) (n : ℕ) :
    IsNearest ((n : ℚ) / d) (roundQuotient n d) := by
  have hdq : (0 : ℚ) < d := by exact_mod_cast hd
  have hx : (n : ℚ) / d = (n / d : ℕ) + ((n % d : ℕ) : ℚ) / d := by
    have hn : (n : ℚ) = d * (n / d : ℕ) + (n % d : ℕ) := by
      exact_mod_cast (Nat.div_add_mod n d).symm
    rw [div_eq_iff hdq.ne', add_mul, div_mul_cancel₀ _ hdq.ne']
    linarith
  have hr : ((n % d : ℕ) : ℚ) / d < 1 := by
    rw [div_lt_one hdq]
    exact_mod_cast Nat.mod_lt n hd
  have hr0 : 0 ≤ ((n % d : ℕ) : ℚ) / d := by positivity
  rw [hx, roundQuotient]
  generalize hq : n / d = q
  split
  · next hlt =>
    -- what is cut off is less than a half
    have hhalf : ((n % d : ℕ) : ℚ) / d < 1 / 2 := by
      have : (2 * (n % d : ℕ) : ℚ) < d := by exact_mod_cast hlt
      rw [div_lt_iff₀ hdq]
      linarith
    refine ⟨by linarith, by linarith, ?_⟩
    rintro (h | h) <;> linarith
  · split
    · next hgt =>
      have hhalf : 1 / 2 < ((n % d : ℕ) : ℚ) / d := by
        have : (d : ℚ) < 2 * (n % d : ℕ) := by exact_mod_cast hgt
        rw [lt_div_iff₀ hdq]
        linarith
      refine ⟨by push_cast; linarith, by push_cast; linarith, ?_⟩
      push_cast
      rintro (h | h) <;> linarith
    · have hhalf : ((n % d : ℕ) : ℚ) / d = 1 / 2 := by
        have : (2 * (n % d : ℕ) : ℚ) = d := by
          have hnat : 2 * (n % d) = d := by omega
          exact_mod_cast hnat
        rw [div_eq_iff hdq.ne']
        linarith
      split
      · next heven =>
        exact ⟨by linarith, by linarith, fun _ => Nat.even_iff.2 heven⟩
      · next hodd =>
        refine ⟨by push_cast; linarith, by push_cast; linarith, fun _ => ?_⟩
        rw [Nat.even_iff]
        omega

/-! ### Powers of two -/

theorem two_zpow_pos (e : ℤ) : (0 : ℚ) < 2 ^ e := by positivity

theorem two_pow_mul_two_zpow (k : ℕ) {f : ℤ} (h : (k : ℤ) + e = f) :
    (2 : ℚ) ^ k * 2 ^ e = 2 ^ f := by
  rw [← h, zpow_add₀ two_ne_zero, zpow_natCast]

theorem cast_mul_two_pow (a k : ℕ) : ((a * 2 ^ k : ℕ) : ℚ) = a * 2 ^ (k : ℤ) := by
  rw [Nat.cast_mul, Nat.cast_pow, Nat.cast_ofNat, zpow_natCast]

/-- Scaling divides by a power of two. -/
theorem scaleDown_div (hd : 0 < d) (n : ℕ) (e : ℤ) :
    0 < (scaleDown n d e).2 ∧
      ((scaleDown n d e).1 : ℚ) / (scaleDown n d e).2 = n / d / 2 ^ e := by
  have hdq : (d : ℚ) ≠ 0 := by exact_mod_cast hd.ne'
  unfold scaleDown
  split
  · next he =>
    obtain ⟨k, rfl⟩ := Int.eq_ofNat_of_zero_le he
    refine ⟨by positivity, ?_⟩
    simp only [Int.toNat_natCast, zpow_natCast]
    push_cast
    rw [div_div]
  · next he =>
    obtain ⟨k, hk⟩ := Int.eq_ofNat_of_zero_le (show 0 ≤ -e by omega)
    have hneg : e = -(k : ℤ) := by omega
    refine ⟨hd, ?_⟩
    rw [hneg, neg_neg, Int.toNat_natCast, zpow_neg, zpow_natCast]
    push_cast
    field_simp

/-- The exponent of a power of two below a number, and not far below it, is its logarithm. -/
theorem log_eq_of_le_of_lt (hle : (2 : ℚ) ^ e ≤ x) (hlt : x < 2 ^ (e + 1)) : Int.log 2 x = e := by
  have hx : 0 < x := (two_zpow_pos e).trans_le hle
  have h₁ : e ≤ Int.log 2 x := (Int.zpow_le_iff_le_log (by norm_num) hx).1 (by exact_mod_cast hle)
  have h₂ : Int.log 2 x < e + 1 :=
    (Int.lt_zpow_iff_log_lt (by norm_num) hx).1 (by exact_mod_cast hlt)
  omega

theorem two_zpow_log_le (hx : 0 < x) : (2 : ℚ) ^ Int.log 2 x ≤ x := by
  exact_mod_cast Int.zpow_log_le_self (b := 2) (by norm_num) hx

theorem lt_two_zpow_log (x : ℚ) : x < 2 ^ (Int.log 2 x + 1) := by
  exact_mod_cast Int.lt_zpow_succ_log_self (b := 2) (by norm_num) x

/-- A natural number is between two powers of two. -/
theorem two_zpow_log2 (hn : 0 < n) :
    (2 : ℚ) ^ (n.log2 : ℤ) ≤ n ∧ (n : ℚ) < 2 ^ ((n.log2 : ℤ) + 1) := by
  constructor
  · rw [zpow_natCast]
    exact_mod_cast Nat.log2_self_le hn.ne'
  · have : n < 2 ^ (n.log2 + 1) := Nat.lt_log2_self
    exact_mod_cast this

/-- The first guess at the logarithm of a quotient is at most one too large. -/
theorem two_zpow_guess (hn : 0 < n) (hd : 0 < d) :
    (2 : ℚ) ^ ((n.log2 : ℤ) - d.log2 - 1) ≤ n / d ∧
      (n : ℚ) / d < 2 ^ ((n.log2 : ℤ) - d.log2 + 1) := by
  have hdq : (0 : ℚ) < d := by exact_mod_cast hd
  obtain ⟨hn₁, hn₂⟩ := two_zpow_log2 hn
  obtain ⟨hd₁, hd₂⟩ := two_zpow_log2 hd
  constructor
  · rw [le_div_iff₀ hdq]
    calc (2 : ℚ) ^ ((n.log2 : ℤ) - d.log2 - 1) * d
        ≤ 2 ^ ((n.log2 : ℤ) - d.log2 - 1) * 2 ^ ((d.log2 : ℤ) + 1) := by gcongr
      _ = 2 ^ (n.log2 : ℤ) := by
          rw [← zpow_add₀ two_ne_zero]
          congr 1
          ring
      _ ≤ n := hn₁
  · rw [div_lt_iff₀ hdq]
    calc (n : ℚ) < 2 ^ ((n.log2 : ℤ) + 1) := hn₂
      _ = 2 ^ ((n.log2 : ℤ) - d.log2 + 1) * 2 ^ (d.log2 : ℤ) := by
          rw [← zpow_add₀ two_ne_zero]
          congr 1
          ring
      _ ≤ 2 ^ ((n.log2 : ℤ) - d.log2 + 1) * d := by gcongr

/-- A scaled quotient tells whether the quotient reaches a power of two. -/
theorem scaleDown_le_iff (hd : 0 < d) (n : ℕ) (e : ℤ) :
    (scaleDown n d e).2 ≤ (scaleDown n d e).1 ↔ (2 : ℚ) ^ e ≤ n / d := by
  obtain ⟨hpos, hscaled⟩ := scaleDown_div hd n e
  have hposq : (0 : ℚ) < (scaleDown n d e).2 := by exact_mod_cast hpos
  rw [← one_le_div (two_zpow_pos e), ← hscaled, one_le_div hposq, Nat.cast_le]

/-- **The place of the first digit of a quotient is its logarithm.** -/
theorem floorLog2_eq (hn : 0 < n) (hd : 0 < d) : floorLog2 n d = Int.log 2 ((n : ℚ) / d) := by
  obtain ⟨hlow, hhigh⟩ := two_zpow_guess hn hd
  have hguess : floorLog2 n d =
      if (scaleDown n d ((n.log2 : ℤ) - d.log2)).2 ≤ (scaleDown n d ((n.log2 : ℤ) - d.log2)).1 then
        (n.log2 : ℤ) - d.log2
      else (n.log2 : ℤ) - d.log2 - 1 := rfl
  rw [hguess]
  split
  · next hle => exact (log_eq_of_le_of_lt ((scaleDown_le_iff hd n _).1 hle) hhigh).symm
  · next hlt =>
    refine (log_eq_of_le_of_lt hlow ?_).symm
    rw [sub_add_cancel]
    exact not_le.1 (mt (scaleDown_le_iff hd n _).2 hlt)

/-! ### Rounding to 53 bits -/

/-- The exponent of the last place of a positive number. -/
def unitExponent (x : ℚ) : ℤ :=
  max (-1074) (Int.log 2 x - 52)

/-- **What a positive number is rounded to:** the nearest multiple of the unit of its last
place.  It is stated on rational numbers, without digits and shifts, so that it can be compared
with what the algorithms compute. -/
def RoundsTo (x y : ℚ) : Prop :=
  ∃ m : ℕ, IsNearest (x / 2 ^ unitExponent x) m ∧ y = m * 2 ^ unitExponent x

/-- A significand has 53 bits, or is the next power of two. -/
theorem significand_le {m : ℕ} (hm : IsNearest (x / 2 ^ unitExponent x) m) : m ≤ 2 ^ 53 := by
  refine hm.le_of_le ?_
  rw [div_le_iff₀ (two_zpow_pos _)]
  calc x ≤ 2 ^ (Int.log 2 x + 1) := (lt_two_zpow_log x).le
    _ ≤ 2 ^ (53 + unitExponent x) :=
        zpow_le_zpow_right₀ (by norm_num) (by unfold unitExponent; omega)
    _ = 2 ^ 53 * 2 ^ unitExponent x := (two_pow_mul_two_zpow 53 (by norm_num)).symm
    _ = ((2 ^ 53 : ℕ) : ℚ) * 2 ^ unitExponent x := by norm_num

/-- All 53 bits of a significand are in use, unless the last place is the least one. -/
theorem le_significand {m : ℕ} (hx : 0 < x) (hm : IsNearest (x / 2 ^ unitExponent x) m)
    (hunit : unitExponent x ≠ -1074) : 2 ^ 52 ≤ m := by
  refine hm.le_of_ge ?_
  rw [le_div_iff₀ (two_zpow_pos _)]
  have hlog : unitExponent x = Int.log 2 x - 52 := by
    unfold unitExponent at hunit ⊢
    omega
  calc ((2 ^ 52 : ℕ) : ℚ) * 2 ^ unitExponent x = 2 ^ 52 * 2 ^ unitExponent x := by norm_num
    _ = 2 ^ Int.log 2 x := two_pow_mul_two_zpow 52 (by push_cast; omega)
    _ ≤ x := two_zpow_log_le hx

namespace RoundsTo

variable {x' y' : ℚ}

/-- **Rounding keeps the order.** -/
theorem mono (hx : 0 < x) (h : RoundsTo x y) (h' : RoundsTo x' y') (hle : x ≤ x') : y ≤ y' := by
  obtain ⟨m, hm, rfl⟩ := h
  obtain ⟨m', hm', rfl⟩ := h'
  have hunit : unitExponent x ≤ unitExponent x' := by
    have := Int.log_mono_right (b := 2) hx hle
    unfold unitExponent
    omega
  rcases hunit.eq_or_lt with heq | hlt
  · have hmm : m ≤ m' := by
      refine hm.mono hm' ?_
      rw [heq]
      gcongr
    rw [heq]
    gcongr
  · -- the lower number is rounded at most to the power of two where the higher binade begins
    have hlow : (m : ℚ) ≤ 2 ^ 53 := by exact_mod_cast significand_le hm
    have hhigh : (2 : ℚ) ^ 52 ≤ m' := by
      have := le_significand (hx.trans_le hle) hm' (by unfold unitExponent at *; omega)
      exact_mod_cast this
    calc (m : ℚ) * 2 ^ unitExponent x ≤ 2 ^ 53 * 2 ^ unitExponent x := by gcongr
      _ = 2 ^ (53 + unitExponent x) := two_pow_mul_two_zpow 53 (by norm_num)
      _ ≤ 2 ^ (52 + unitExponent x') := zpow_le_zpow_right₀ (by norm_num) (by omega)
      _ = 2 ^ 52 * 2 ^ unitExponent x' := (two_pow_mul_two_zpow 52 (by norm_num)).symm
      _ ≤ m' * 2 ^ unitExponent x' := by gcongr

/-- **What has a place for each of its digits stays as it is.** -/
theorem eq_of_natCast {k : ℕ} (h : RoundsTo x y) (hk : x = k * 2 ^ unitExponent x) : y = x := by
  obtain ⟨m, hm, rfl⟩ := h
  have hdiv : x / 2 ^ unitExponent x = k := by
    rw [div_eq_iff (two_zpow_pos _).ne']
    exact hk
  rw [hdiv] at hm
  rw [hm.eq_of_natCast]
  exact hk.symm

theorem nonneg (h : RoundsTo x y) : 0 ≤ y := by
  obtain ⟨m, -, rfl⟩ := h
  positivity

end RoundsTo

/-! ### The limit of finite numbers -/

/-- **The magnitude from which on rounding leaves the finite numbers:** the middle between the
greatest of them, `(2 ^ 53 - 1) * 2 ^ 971`, and the power of two above it. -/
def overflowBound : ℕ :=
  (2 ^ 54 - 1) * 2 ^ 970

theorem overflowBound_eq : (overflowBound : ℚ) = (2 ^ 53 - 1 / 2) * 2 ^ (971 : ℤ) := by
  have hfactor : ((2 ^ 54 - 1 : ℕ) : ℚ) = (2 ^ 53 - 1 / 2) * 2 ^ 1 := by norm_num
  have hexponent : ((1 : ℕ) : ℤ) + (970 : ℕ) = 971 := by norm_num
  simp only [overflowBound, cast_mul_two_pow]
  rw [hfactor, mul_assoc, two_pow_mul_two_zpow 1 hexponent]

namespace RoundsTo

/-- From the limit on, rounding reaches the power of two. -/
theorem le_of_overflowBound_le (h : RoundsTo x y) (hlarge : (overflowBound : ℚ) ≤ x) :
    2 ^ (1024 : ℤ) ≤ y := by
  obtain ⟨m, hm, rfl⟩ := h
  rw [overflowBound_eq] at hlarge
  have hbound : (2 : ℚ) ^ (1023 : ℤ) ≤ x := by
    refine le_trans ?_ hlarge
    rw [← two_pow_mul_two_zpow 52 (show (52 : ℤ) + 971 = 1023 by norm_num)]
    have hfactor : (2 : ℚ) ^ 52 ≤ 2 ^ 53 - 1 / 2 := by norm_num
    have := two_zpow_pos 971
    gcongr
  have hx : 0 < x := (two_zpow_pos _).trans_le hbound
  have hlog : 1023 ≤ Int.log 2 x :=
    (Int.zpow_le_iff_le_log (b := 2) (by norm_num) hx).1 (by exact_mod_cast hbound)
  have hunit : unitExponent x = 971 ∨ 972 ≤ unitExponent x := by
    unfold unitExponent
    omega
  rcases hunit with hunit | hunit
  · -- the middle is a tie, and goes up, as the significand below it is odd
    rw [hunit] at hm ⊢
    have hquotient : (2 : ℚ) ^ 53 - 1 / 2 ≤ x / 2 ^ (971 : ℤ) := by
      rwa [le_div_iff₀ (two_zpow_pos _)]
    have hmiddle : ((2 ^ 53 - 1 : ℕ) : ℚ) + 1 / 2 = 2 ^ 53 - 1 / 2 := by norm_num
    have hsig : 2 ^ 53 - 1 < m := hm.lt_of_odd (by decide) (hmiddle.trans_le hquotient)
    have hsigq : (2 : ℚ) ^ 53 ≤ m := by
      have : 2 ^ 53 ≤ m := by omega
      exact_mod_cast this
    rw [← two_pow_mul_two_zpow 53 (show (53 : ℤ) + 971 = 1024 by norm_num)]
    have := two_zpow_pos 971
    gcongr
  · have hsigq : (2 : ℚ) ^ 52 ≤ m := by
      have := le_significand hx hm (by omega)
      exact_mod_cast this
    rw [← two_pow_mul_two_zpow 52 (show (52 : ℤ) + 972 = 1024 by norm_num)]
    gcongr
    norm_num

/-- Below the limit, rounding stays below the power of two. -/
theorem lt_of_lt_overflowBound (hx : 0 < x) (h : RoundsTo x y) (hsmall : x < overflowBound) :
    y < 2 ^ (1024 : ℤ) := by
  obtain ⟨m, hm, rfl⟩ := h
  rw [overflowBound_eq] at hsmall
  have hlog : Int.log 2 x < 1024 := by
    refine (Int.lt_zpow_iff_log_lt (b := 2) (by norm_num) hx).1 (hsmall.trans ?_)
    rw [Nat.cast_ofNat, ← two_pow_mul_two_zpow 53 (show (53 : ℤ) + 971 = 1024 by norm_num)]
    have := two_zpow_pos 971
    gcongr
    linarith
  have hunit : unitExponent x = 971 ∨ unitExponent x ≤ 970 := by
    unfold unitExponent
    omega
  rcases hunit with hunit | hunit
  · rw [hunit] at hm ⊢
    have hquotient : x / 2 ^ (971 : ℤ) < 2 ^ 53 - 1 / 2 := by
      rwa [div_lt_iff₀ (two_zpow_pos _)]
    have hsigq : (m : ℚ) < 2 ^ 53 := by linarith [hm.above]
    rw [← two_pow_mul_two_zpow 53 (show (53 : ℤ) + 971 = 1024 by norm_num)]
    have := two_zpow_pos 971
    gcongr
  · have hsigq : (m : ℚ) ≤ 2 ^ 53 := by exact_mod_cast significand_le hm
    calc (m : ℚ) * 2 ^ unitExponent x ≤ 2 ^ 53 * 2 ^ unitExponent x := by gcongr
      _ = 2 ^ (53 + unitExponent x) := two_pow_mul_two_zpow 53 (by norm_num)
      _ < 2 ^ (1024 : ℤ) := zpow_lt_zpow_right₀ (by norm_num) (by omega)

end RoundsTo

/-! ### The exact value of what is rounded -/

/-- A magnitude with a sign. -/
def signed (negative : Bool) (x : ℚ) : ℚ :=
  if negative then -x else x

/-- **The exact value of a finite number.**  What an operation gives is told by it: the result
is what the exact result is rounded to. -/
def toRat : Binary64 → ℚ
  | finite negative m e _ => signed negative (m * 2 ^ e)
  | _ => 0

/-- A significand and exponent in their places are finite below the limit, and exact. -/
theorem pack_spec {m : ℕ} (negative : Bool) (hm : m < 2 ^ 53) (he : -1074 ≤ e)
    (hnormal : 2 ^ 52 ≤ m ∨ e = -1074) :
    ((pack negative m e).isFinite = true ↔ (m : ℚ) * 2 ^ e < 2 ^ (1024 : ℤ)) ∧
      ((pack negative m e).isFinite = true →
        (pack negative m e).toRat = signed negative (m * 2 ^ e)) := by
  have hmq : (m : ℚ) < 2 ^ 53 := by exact_mod_cast hm
  have hrange : (m : ℚ) * 2 ^ e < 2 ^ (1024 : ℤ) ↔ e ≤ 971 := by
    constructor
    · intro hlt
      by_contra hgt
      have hsig : (2 : ℚ) ^ 52 ≤ m := by
        have := hnormal.resolve_right (by omega)
        exact_mod_cast this
      refine absurd hlt (not_lt.2 ?_)
      calc (2 : ℚ) ^ (1024 : ℤ) ≤ 2 ^ (52 + e) := zpow_le_zpow_right₀ (by norm_num) (by omega)
        _ = 2 ^ 52 * 2 ^ e := (two_pow_mul_two_zpow 52 (by norm_num)).symm
        _ ≤ m * 2 ^ e := by gcongr
    · intro hle
      calc (m : ℚ) * 2 ^ e < 2 ^ 53 * 2 ^ e := by
            have := two_zpow_pos e
            gcongr
        _ = 2 ^ (53 + e) := two_pow_mul_two_zpow 53 (by norm_num)
        _ ≤ 2 ^ (1024 : ℤ) := zpow_le_zpow_right₀ (by norm_num) (by omega)
  rw [hrange, pack]
  split
  · next h => exact ⟨iff_of_true rfl h.2.2.1, fun _ => rfl⟩
  · next h =>
    have hgt : ¬ e ≤ 971 := fun hle => h ⟨hm, he, hle, hnormal⟩
    exact ⟨iff_of_false Bool.false_ne_true hgt, fun hfinite => absurd hfinite Bool.false_ne_true⟩

/-- A significand may also be the next power of two: then a carry moves into the exponent. -/
theorem carry_spec {m : ℕ} (negative : Bool) (hm : m ≤ 2 ^ 53) (he : -1074 ≤ e)
    (hnormal : e ≠ -1074 → 2 ^ 52 ≤ m) :
    ((if m = 2 ^ 53 then pack negative (2 ^ 52) (e + 1) else pack negative m e).isFinite = true ↔
        (m : ℚ) * 2 ^ e < 2 ^ (1024 : ℤ)) ∧
      ((if m = 2 ^ 53 then pack negative (2 ^ 52) (e + 1) else pack negative m e).isFinite = true →
        (if m = 2 ^ 53 then pack negative (2 ^ 52) (e + 1) else pack negative m e).toRat =
          signed negative (m * 2 ^ e)) := by
  split
  · next hcarry =>
    have hvalue : ((2 ^ 52 : ℕ) : ℚ) * 2 ^ (e + 1) = (m : ℚ) * 2 ^ e := by
      rw [hcarry, zpow_add_one₀ two_ne_zero]
      push_cast
      ring
    have hpack := pack_spec negative (show 2 ^ 52 < 2 ^ 53 by norm_num)
      (show -1074 ≤ e + 1 by omega) (Or.inl le_rfl)
    rwa [hvalue] at hpack
  · next hcarry =>
    refine pack_spec negative (by omega) he ?_
    by_cases hleast : e = -1074
    · exact Or.inr hleast
    · exact Or.inl (hnormal hleast)

/-- **What a positive quotient is rounded to:** it is finite below the limit, and has the exact
value that its rounding has. -/
theorem exists_roundsTo_ofRatio (negative : Bool) (hn : 0 < n) (hd : 0 < d) :
    ∃ y, RoundsTo ((n : ℚ) / d) y ∧
      ((ofRatio negative n d).isFinite = true ↔ y < 2 ^ (1024 : ℤ)) ∧
      ((ofRatio negative n d).isFinite = true →
        (ofRatio negative n d).toRat = signed negative y) := by
  have hx : (0 : ℚ) < (n : ℚ) / d := by
    have : (0 : ℚ) < n := by exact_mod_cast hn
    positivity
  have hexponent : max (-1074) (floorLog2 n d - 52) = unitExponent ((n : ℚ) / d) := by
    rw [floorLog2_eq hn hd, unitExponent]
  obtain ⟨hpos, hscaled⟩ := scaleDown_div hd n (unitExponent ((n : ℚ) / d))
  have hm := isNearest_roundQuotient hpos (scaleDown n d (unitExponent ((n : ℚ) / d))).1
  rw [hscaled] at hm
  refine ⟨_, ⟨_, hm, rfl⟩, ?_⟩
  have hspec := carry_spec negative (significand_le hm) (le_max_left _ _) (le_significand hx hm)
  rw [ofRatio, if_neg hn.ne']
  simp only [hexponent]
  exact hspec

end Binary64

end RecordFlow
