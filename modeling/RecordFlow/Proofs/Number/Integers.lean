import RecordFlow.Proofs.Number.Arithmetic
import RecordFlow.Step.Numeric

/-!
# Integral results

A computed number becomes an integer of a value if it is one, of a magnitude up to which every
integer is a floating-point number (`ofBinary64_eq_int_iff`).

Rounding a number goes through one half more of it, and the sum is itself rounded.  An integer
and a half has a place for the half below `2 ^ 52`.  From there on the half is a tie, and is
rounded to the even one of two neighbours: **an integer is rounded to itself if it is even or at
most `2 ^ 52`** (`roundHalfUp_intCast`), **and to the next one otherwise**
(`roundHalfUp_intCast_of_odd`).
-/

namespace RecordFlow

variable {x : Binary64} {q r : ℚ} {k : ℤ} {m : ℕ}

namespace Binary64

/-! ### Integers of values -/

/-- The integer before the fraction, if there is no fraction. -/
theorem toRat_eq_toInt (hx : x.isIntegral = true) : x.toRat = x.toInt := by
  cases x with
  | nan => cases hx
  | infinite s => cases hx
  | finite s m e hm =>
    simp only [toInt, cast_signed]
    unfold isIntegral at hx
    by_cases he : 0 ≤ e
    · simp only [integerPart, if_pos he]
      exact toRat_finite_of_nonneg he
    · simp only [integerPart, if_neg he, Bool.not_eq_true', bne_eq_false_iff_eq] at hx ⊢
      have hpos : (0 : ℚ) < (2 ^ (-e).toNat : ℕ) := by exact_mod_cast Nat.two_pow_pos _
      rw [toRat_finite_of_neg he]
      congr 1
      rw [div_eq_iff hpos.ne', ← Nat.cast_mul, Nat.div_mul_cancel (Nat.dvd_of_mod_eq_zero hx)]

/-- A number with the value of an integer has no fraction. -/
theorem isIntegral_of_toRat (hx : x.isFinite = true) (h : x.toRat = k) : x.isIntegral = true := by
  cases x with
  | nan => cases hx
  | infinite s => cases hx
  | finite s m e hm =>
    unfold isIntegral
    by_cases he : 0 ≤ e
    · simp only [integerPart, if_pos he, Bool.not_false]
    · simp only [integerPart, if_neg he, Bool.not_eq_true', bne_eq_false_iff_eq]
      rw [toRat_finite_of_neg he] at h
      have hpos : (0 : ℚ) < (2 ^ (-e).toNat : ℕ) := by exact_mod_cast Nat.two_pow_pos _
      have hmultiple : (m : ℚ) = k.natAbs * (2 ^ (-e).toNat : ℕ) := by
        rw [← div_eq_iff hpos.ne', Nat.cast_natAbs, Int.cast_abs, ← h, abs_signed,
          abs_of_nonneg (by positivity)]
      exact Nat.mod_eq_zero_of_dvd ⟨k.natAbs, by rw [Nat.mul_comm]; exact_mod_cast hmultiple⟩

end Binary64

/-- What is not finite has no value. -/
theorem Value.ofBinary64_eq_null (hx : ¬x.isFinite = true) : Value.ofBinary64 x = .null := by
  rw [Value.ofBinary64, Bool.eq_false_iff.2 hx, Bool.not_false, if_pos rfl]

/-- **The computed numbers whose value is an integer.** -/
theorem Value.ofBinary64_eq_int_iff {n : ℤ} (hn : n.natAbs ≤ maxExactInteger) :
    Value.ofBinary64 x = .int n ↔ x.isFinite = true ∧ x.toRat = n := by
  unfold Value.ofBinary64
  constructor
  · intro h
    split at h
    · cases h
    · next hfinite =>
      split at h
      · next hexact =>
        rw [Binary64.isExactInteger, Bool.and_eq_true] at hexact
        obtain rfl : x.toInt = n := by
          simpa only [Value.int, Value.num.injEq, Number.int.injEq] using h
        exact ⟨by simpa using hfinite, Binary64.toRat_eq_toInt hexact.1⟩
      · cases h
  · rintro ⟨hfinite, hvalue⟩
    have hintegral := Binary64.isIntegral_of_toRat hfinite hvalue
    have hint : x.toInt = n := by
      rw [Binary64.toRat_eq_toInt hintegral] at hvalue
      exact_mod_cast hvalue
    have hexact : x.isExactInteger = true := by
      rw [Binary64.isExactInteger, hintegral, hint, Bool.true_and, decide_eq_true_iff]
      exact hn
    rw [hfinite, Bool.not_true, if_neg Bool.false_ne_true, if_pos hexact, hint]

/-! ### Halves -/

namespace Binary64

/-- Between `2 ^ 52` and `2 ^ 53` the places are the units. -/
theorem RoundsTo.eq_natCast_of_even (h : RoundsTo q r) (hlow : 2 ^ 52 ≤ q) (hhigh : q < 2 ^ 53)
    (hm : Even m) (hhalf : |q - m| ≤ 1 / 2) : r = m := by
  have hunit : unitExponent q = 0 := by
    have hlog : Int.log 2 q = 52 :=
      log_eq_of_le_of_lt (by exact_mod_cast hlow) (by exact_mod_cast hhigh)
    rw [unitExponent, hlog]
    norm_num
  have hvalue := h.eq_of_isNearest (k := m)
  rw [hunit, zpow_zero, div_one, mul_one] at hvalue
  exact hvalue (.of_even hm hhalf)

theorem Rounds.eq_intCast_of_even (h : Rounds q r) (hlow : 2 ^ 52 ≤ |q|) (hhigh : |q| < 2 ^ 53)
    (hk : Even k) (hhalf : |q - k| ≤ 1 / 2) : r = k := by
  obtain ⟨hbelow, habove⟩ := abs_le.1 hhalf
  rcases lt_or_ge q 0 with hneg | hpos
  · rw [abs_of_neg hneg] at hlow hhigh
    have hk0 : k < 0 := by exact_mod_cast (by linarith : (k : ℚ) < 0)
    obtain ⟨j, rfl⟩ : ∃ j : ℕ, k = -j := ⟨k.natAbs, by omega⟩
    rw [Int.cast_neg, Int.cast_natCast] at hbelow habove ⊢
    rw [← neg_eq_iff_eq_neg]
    refine (h.of_neg hneg).eq_natCast_of_even hlow hhigh ?_ (abs_le.2 ⟨by linarith, by linarith⟩)
    exact_mod_cast even_neg.1 hk
  · rw [abs_of_nonneg hpos] at hlow hhigh
    have hk0 : 0 < k := by exact_mod_cast (by linarith : (0 : ℚ) < k)
    obtain ⟨j, rfl⟩ : ∃ j : ℕ, k = j := ⟨k.natAbs, by omega⟩
    refine (h.of_pos (by linarith)).eq_natCast_of_even hlow hhigh ?_ hhalf
    exact_mod_cast hk

/-- Where there is no place for it, the half of an integer and a half is a tie. -/
theorem Rounds.eq_of_half {j : ℤ} (h : Rounds (k + 1 / 2) r) (hlarge : 2 ^ 53 ≤ (2 * k + 1).natAbs)
    (hk : k.natAbs < 2 ^ 53) (heven : Even j) (hj : j = k ∨ j = k + 1) : r = j := by
  have habs : |(k : ℚ) + 1 / 2| = (2 * k + 1).natAbs / 2 := by
    rw [Nat.cast_natAbs, Int.cast_abs, ← abs_of_pos (two_pos (α := ℚ)), ← abs_div, abs_two]
    congr 1
    push_cast
    ring
  have hlow : (2 : ℚ) ^ 53 ≤ (2 * k + 1).natAbs := by exact_mod_cast hlarge
  have hhigh : ((2 * k + 1).natAbs : ℚ) < 2 ^ 54 := by
    exact_mod_cast (show (2 * k + 1).natAbs < 2 ^ 54 by omega)
  refine h.eq_intCast_of_even (by rw [habs]; linarith) (by rw [habs]; linarith) heven ?_
  rcases hj with rfl | rfl
  · norm_num
  · push_cast
    norm_num

/-- **The floor of an integer and a half, rounded, is the integer,** if there is a place for the
half or the integer is even. -/
theorem Rounds.floor_half (h : Rounds (k + 1 / 2) r) (hk : k.natAbs < 2 ^ 53)
    (hroom : k.natAbs ≤ 2 ^ 52 ∨ Even k) : ⌊r⌋ = k := by
  by_cases hbits : (2 * k + 1).natAbs < 2 ^ 53
  · have hhalf : (k : ℚ) + 1 / 2 = (2 * k + 1 : ℤ) * 2 ^ (-1 : ℤ) := by
      push_cast
      rw [zpow_neg_one]
      ring
    rw [hhalf] at h
    rw [h.eq_of_significand hbits (by norm_num), ← hhalf, Int.floor_intCast_add]
    norm_num
  · have heven : Even k := by
      refine hroom.elim (fun hsmall => ?_) id
      obtain rfl : k = 2 ^ 52 := by omega
      decide
    rw [h.eq_of_half (not_lt.1 hbits) hk heven (Or.inl rfl), Int.floor_intCast]

/-- **For any other integer it is the next one.** -/
theorem Rounds.floor_half_of_odd (h : Rounds (k + 1 / 2) r) (hk : k.natAbs < 2 ^ 53)
    (hlarge : 2 ^ 52 < k.natAbs) (hodd : Odd k) : ⌊r⌋ = k + 1 := by
  rw [h.eq_of_half (by omega) hk hodd.add_one (Or.inr rfl), Int.floor_intCast]

end Binary64

namespace Numeric

open Binary64

theorem isFinite_of_roundHalfUp (h : (roundHalfUp x).isFinite = true) : x.isFinite = true :=
  (isFinite_of_add (isFinite_of_floor h)).1

theorem half_spec : half.isFinite = true ∧ half.toRat = 1 / 2 := by
  have hfinite : half.isFinite = true := by decide +kernel
  have hhalf : ((1 : ℕ) : ℚ) / (2 : ℕ) = (1 : ℕ) * 2 ^ (-1 : ℤ) := by norm_num
  have hrounds := ((isRounded_ofRatio false (d := 2) (by decide) 1).rounds hfinite).of_pos
    (by norm_num [signed])
  rw [signed, if_neg Bool.false_ne_true, hhalf] at hrounds
  refine ⟨hfinite, ?_⟩
  rw [half, hrounds.eq_of_significand (by decide) (by norm_num) (by norm_num)]
  norm_num

/-- **Rounding is the floor of one half more,** which is itself rounded. -/
theorem exists_rounds_roundHalfUp (hx : x.isFinite = true) (hsmall : |x.toRat| ≤ 2 ^ 53) :
    (roundHalfUp x).isFinite = true ∧
      ∃ r, Rounds (x.toRat + 1 / 2) r ∧ (roundHalfUp x).toRat = ⌊r⌋ := by
  have hsum := isRounded_add hx half_spec.1
  rw [half_spec.2] at hsum
  have hfinite : (x.add half).isFinite = true := by
    have hbound : (2 : ℚ) ^ 53 + 1 ≤ overflowBound := by exact_mod_cast two_pow_lt_overflowBound
    rw [hsum.isFinite_iff]
    obtain ⟨hlow, hhigh⟩ := abs_le.1 hsmall
    exact abs_lt.2 ⟨by linarith, by linarith⟩
  obtain ⟨hfloor, hvalue⟩ := floor_spec hfinite
  exact ⟨hfloor, _, hsum.rounds hfinite, hvalue⟩

theorem abs_toRat_le (hvalue : x.toRat = k) (hk : k.natAbs < 2 ^ 53) : |x.toRat| ≤ 2 ^ 53 := by
  rw [hvalue, ← Int.cast_abs, Int.abs_eq_natAbs]
  exact_mod_cast hk.le

/-- **An integer is rounded to itself** if it is even or at most `2 ^ 52`. -/
theorem roundHalfUp_intCast (hx : x.isFinite = true) (hvalue : x.toRat = k)
    (hk : k.natAbs < 2 ^ 53) (hroom : k.natAbs ≤ 2 ^ 52 ∨ Even k) :
    (roundHalfUp x).isFinite = true ∧ (roundHalfUp x).toRat = k := by
  obtain ⟨hfinite, r, hr, hfloor⟩ := exists_rounds_roundHalfUp hx (abs_toRat_le hvalue hk)
  rw [hvalue] at hr
  exact ⟨hfinite, by rw [hfloor, hr.floor_half hk hroom]⟩

/-- **Any other integer is rounded to the next one.** -/
theorem roundHalfUp_intCast_of_odd (hx : x.isFinite = true) (hvalue : x.toRat = k)
    (hk : k.natAbs < 2 ^ 53) (hlarge : 2 ^ 52 < k.natAbs) (hodd : Odd k) :
    (roundHalfUp x).isFinite = true ∧ (roundHalfUp x).toRat = (k + 1 : ℤ) := by
  obtain ⟨hfinite, r, hr, hfloor⟩ := exists_rounds_roundHalfUp hx (abs_toRat_le hvalue hk)
  rw [hvalue] at hr
  exact ⟨hfinite, by rw [hfloor, hr.floor_half_of_odd hk hlarge hodd]⟩

/-- A small number is rounded to zero. -/
theorem roundHalfUp_of_small (hx : x.isFinite = true) (hsmall : |x.toRat| ≤ 2 ^ (-2 : ℤ)) :
    (roundHalfUp x).isFinite = true ∧ (roundHalfUp x).toRat = 0 := by
  obtain ⟨hfinite, r, hr, hfloor⟩ :=
    exists_rounds_roundHalfUp hx (hsmall.trans (by norm_num))
  have hquarter : (2 : ℚ) ^ (-2 : ℤ) = 1 / 4 := by norm_num
  rw [hquarter] at hsmall
  obtain ⟨hlow, hhigh⟩ := abs_le.1 hsmall
  have hpos : 0 < x.toRat + 1 / 2 := by linarith
  have hthreeQuarters : RoundsTo (3 / 4) (3 / 4) := by
    have h := roundsTo_significand (m := 3) (e := -2) (by norm_num) (by norm_num) (by norm_num)
    norm_num at h
    exact h
  have hle : r ≤ 3 / 4 := (hr.of_pos hpos).mono hpos hthreeQuarters (by linarith)
  have hfloor0 : ⌊r⌋ = 0 := Int.floor_eq_zero_iff.2 ⟨(hr.of_pos hpos).nonneg, by linarith⟩
  exact ⟨hfinite, by rw [hfloor, hfloor0, Int.cast_zero]⟩

end Numeric

end RecordFlow
