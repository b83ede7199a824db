import RecordFlow.Proofs.Number.Cells
import RecordFlow.Proofs.Number.Integers
import RecordFlow.Proofs.Number.Powers

/-!
# Integers rounded to decimal places

Rounding to decimal places multiplies by a power of ten, rounds half up and divides again, with
a rounding after each operation.  An integer has no decimal places to lose, but the way there
and back may not lead to it (`round_int`): it does exactly if the number of units of the last
place, divided by the power of ten, is in the cell of the integer (`ScalesBack`).

* Without decimal places the odd integers beyond `2 ^ 52` are rounded to the next one.
* With decimal places an integer is kept as long as its number of units is an exact integer.
* A power of ten beyond the finite numbers leaves nothing.
* A number of places from `2 ^ 31` on counts as a negative one, and small integers vanish.

## Main definitions

* `Numeric.units` — the whole number of units of the last place.
* `Numeric.ScalesBack` — the units lead back to the integer.
* `Step.RoundsInteger` — what is known of the result.
-/

namespace RecordFlow

open Binary64

variable {d : ℕ} {n : ℤ}

namespace Numeric

/-! ### Scales -/

theorem scale_eq_powTen (hd : d < 2 ^ 31) : scale d = powTen d := by
  have hbmod : Int.bmod d (2 ^ 32) = d := by
    rw [Int.bmod_def]
    split <;> omega
  rw [scale, hbmod, powInt, Int.natAbs_natCast, if_neg (by omega)]
  rfl

/-- A number of places from `2 ^ 31` on stands for the reciprocal of a power. -/
theorem scale_eq_div (hlow : 2 ^ 31 ≤ d) (hd : d < 2 ^ 32) :
    scale d = (ofNat 1).div (powTen (2 ^ 32 - d)) := by
  have hbmod : Int.bmod d (2 ^ 32) = -(2 ^ 32 - d : ℕ) := by
    rw [Int.bmod_def]
    split <;> omega
  rw [scale, hbmod, powInt, Int.natAbs_neg, Int.natAbs_natCast, if_pos (by omega)]
  rfl

/-- Nothing is less than a scale. -/
theorem scale_nonneg (hd : d < 2 ^ 32) : 0 ≤ (scale d).toRat := by
  rcases lt_or_ge d (2 ^ 31) with hlow | hhigh
  · rw [scale_eq_powTen hlow]
    exact powTen_nonneg d
  · rw [scale_eq_div hhigh hd]
    exact reciprocal_nonneg (powTen_nonneg _)

/-- Up to the greatest power of ten the scale is finite. -/
theorem isFinite_scale (hd : d ≤ 308) : (scale d).isFinite = true ∧ 0 < (scale d).toRat := by
  have hfinite := isFinite_powTen_iff.2 hd
  rw [scale_eq_powTen (by omega)]
  exact ⟨hfinite, (by positivity : (0 : ℚ) < 8 ^ d).trans_le (le_powTen hfinite)⟩

/-- Up to the greatest exact power of ten it is the power. -/
theorem toRat_scale (hd : d ≤ 22) : (scale d).toRat = 10 ^ d := by
  rw [scale_eq_powTen (by omega), (powTen_spec hd).2]

/-- Powers of ten that are not finite have no scale. -/
theorem scale_of_beyond (hlow : 309 ≤ d) (hhigh : d ≤ 2 ^ 32 - 309) : (scale d).toRat = 0 := by
  rcases lt_or_ge d (2 ^ 31) with hd | hd
  · rw [scale_eq_powTen hd]
    exact toRat_of_not_isFinite (mt isFinite_powTen_iff.1 (by omega))
  · rw [scale_eq_div hd (by omega)]
    exact toRat_div_of_not_isFinite (mt isFinite_powTen_iff.1 (by omega))

/-- Many places that count as negative ones make a scale that is small. -/
theorem scale_of_negative (hlow : 2 ^ 32 - 308 ≤ d) (hhigh : d ≤ 2 ^ 32 - 17) :
    (scale d).isFinite = true ∧ 0 < (scale d).toRat ∧ (scale d).toRat ≤ 2 ^ (-56 : ℤ) := by
  rw [scale_eq_div (by omega) (by omega)]
  exact reciprocal_powTen (by omega) (by omega)

/-! ### Units of the last place -/

/-- **The whole number of units of the last place** of an integer.  It is computed with a
rounding for the product and another one for the half that is added before it is cut. -/
def units (decimals : ℕ) (n : ℤ) : Binary64 :=
  roundHalfUp ((ofInt n).mul (scale decimals))

theorem isFinite_scale_of_units (h : (units d n).isFinite = true) : (scale d).isFinite = true :=
  (isFinite_of_mul (isFinite_of_roundHalfUp h)).2

/-- **The units lead back to the integer:** divided by the scale they are in its cell.  So the
last rounding, that of the quotient, gives the integer again, whatever the roundings before it
have done. -/
def ScalesBack (decimals : ℕ) (n : ℤ) : Prop :=
  (units decimals n).isFinite = true ∧ 0 < (scale decimals).toRat ∧
    InCell n ((units decimals n).toRat / (scale decimals).toRat)

/-- A finite result comes from a finite number of units and a scale. -/
theorem of_isFinite_roundTo (hd : d < 2 ^ 32) (h : (roundTo d (ofInt n)).isFinite = true) :
    (units d n).isFinite = true ∧ 0 < (scale d).toRat := by
  obtain ⟨hunits, hne⟩ := isFinite_of_div h
  exact ⟨hunits, (scale_nonneg hd).lt_of_ne' (hne (isFinite_scale_of_units hunits))⟩

/-- A result is an integer if the number of units is its multiple. -/
theorem roundTo_spec {k : ℤ} (hunits : (units d n).isFinite = true) (hpos : 0 < (scale d).toRat)
    (h : (units d n).toRat = k * (scale d).toRat) (hk : k.natAbs ≤ 2 ^ 53) :
    (roundTo d (ofInt n)).isFinite = true ∧ (roundTo d (ofInt n)).toRat = k := by
  refine (isRounded_div hunits (isFinite_scale_of_units hunits) hpos.ne').eq_intCast ?_ hk
  rw [h, mul_div_cancel_right₀ _ hpos.ne']

/-- Less than a quarter of a unit is rounded to none. -/
theorem units_of_small (hn : n.natAbs ≤ 2 ^ 53) (hd : (scale d).isFinite = true)
    (hsmall : |(n : ℚ) * (scale d).toRat| ≤ 2 ^ (-2 : ℤ)) :
    (units d n).isFinite = true ∧ (units d n).toRat = 0 := by
  obtain ⟨hnfinite, hnvalue⟩ := ofInt_spec hn
  have hproduct := isRounded_mul hnfinite hd
  rw [hnvalue] at hproduct
  obtain ⟨hfinite, hrounds⟩ := hproduct.of_abs_le (hsmall.trans (by norm_num))
  exact roundHalfUp_of_small hfinite
    (hrounds.abs_le_of_abs_le (roundsTo_two_zpow (by norm_num)) (two_zpow_pos _) hsmall)

/-- An integral number of units, before it is rounded. -/
theorem mul_scale_spec {k : ℤ} (hn : n.natAbs ≤ 2 ^ 53) (hd : (scale d).isFinite = true)
    (hproduct : (n : ℚ) * (scale d).toRat = k) (hk : k.natAbs < 2 ^ 53) :
    ((ofInt n).mul (scale d)).isFinite = true ∧ ((ofInt n).mul (scale d)).toRat = k := by
  obtain ⟨hnfinite, hnvalue⟩ := ofInt_spec hn
  exact (isRounded_mul hnfinite hd).eq_intCast (by rw [hnvalue, hproduct]) hk.le

/-! ### There and back -/

/-- **The result is the integer exactly if the units lead back to it.** -/
theorem roundTo_eq_iff (hd : d < 2 ^ 32) (hn : n.natAbs < 2 ^ 53) :
    (roundTo d (ofInt n)).isFinite = true ∧ (roundTo d (ofInt n)).toRat = n ↔ ScalesBack d n := by
  have hquotient (hunits : (units d n).isFinite = true) (hpos : 0 < (scale d).toRat)
      (hne : n ≠ 0) :=
    div_eq_intCast_iff hunits (isFinite_scale_of_units hunits) hpos.ne' hne hn
  constructor
  · intro h
    obtain ⟨hunits, hpos⟩ := of_isFinite_roundTo hd h.1
    refine ⟨hunits, hpos, ?_⟩
    rcases eq_or_ne n 0 with rfl | hne
    · exact inCell_zero _
    · exact (hquotient hunits hpos hne).1 h
  · rintro ⟨hunits, hpos, hcell⟩
    rcases eq_or_ne n 0 with rfl | hne
    · have hzero := (units_of_small hn.le (isFinite_scale_of_units hunits) (by simp)).2
      exact roundTo_spec hunits hpos (by rw [hzero, Int.cast_zero, zero_mul]) hn.le
    · exact (hquotient hunits hpos hne).2 hcell

/-- **Without decimal places an integer is kept** if it is even or at most `2 ^ 52`. -/
theorem roundTo_zero (hn : n.natAbs < 2 ^ 53) (hroom : n.natAbs ≤ 2 ^ 52 ∨ Even n) :
    (roundTo 0 (ofInt n)).isFinite = true ∧ (roundTo 0 (ofInt n)).toRat = n := by
  obtain ⟨hscale, hpos⟩ := isFinite_scale (Nat.zero_le 308)
  have hone : (scale 0).toRat = 1 := toRat_scale (Nat.zero_le 22)
  obtain ⟨hfinite, hvalue⟩ := mul_scale_spec hn.le hscale (by rw [hone, mul_one]) hn
  obtain ⟨hunits, hsame⟩ := roundHalfUp_intCast hfinite hvalue hn hroom
  exact roundTo_spec hunits hpos (by rw [hone, mul_one]; exact hsame) hn.le

/-- **Any other integer becomes the next one.** -/
theorem roundTo_zero_of_odd (hn : n.natAbs < 2 ^ 53) (hlarge : 2 ^ 52 < n.natAbs) (hodd : Odd n) :
    (roundTo 0 (ofInt n)).isFinite = true ∧ (roundTo 0 (ofInt n)).toRat = (n + 1 : ℤ) := by
  obtain ⟨hscale, hpos⟩ := isFinite_scale (Nat.zero_le 308)
  have hone : (scale 0).toRat = 1 := toRat_scale (Nat.zero_le 22)
  obtain ⟨hfinite, hvalue⟩ := mul_scale_spec hn.le hscale (by rw [hone, mul_one]) hn
  obtain ⟨hunits, hnext⟩ := roundHalfUp_intCast_of_odd hfinite hvalue hn hlarge hodd
  exact roundTo_spec hunits hpos (by rw [hone, mul_one]; exact hnext) (by omega)

/-- Exact numbers of units have exact powers of ten. -/
theorem le_of_units {m : ℕ} (hm : 0 < m) (hunits : m * 10 ^ d < 2 ^ 53) : d ≤ 22 := by
  by_contra hlarge
  have hpow : 10 ^ 22 ≤ 10 ^ d := Nat.pow_le_pow_right (by decide) (by omega)
  have hone : 1 * 10 ^ d ≤ m * 10 ^ d := Nat.mul_le_mul_right _ hm
  omega

/-- **An integer is kept as long as its number of units is exact.** -/
theorem roundTo_of_exact (hlow : 1 ≤ d) (hhigh : d ≤ 308) (hunits : n.natAbs * 10 ^ d < 2 ^ 53) :
    (roundTo d (ofInt n)).isFinite = true ∧ (roundTo d (ofInt n)).toRat = n := by
  obtain ⟨hfinite, hpos⟩ := isFinite_scale hhigh
  have hn : n.natAbs < 2 ^ 53 :=
    (Nat.le_mul_of_pos_right _ (Nat.pow_pos (by decide))).trans_lt hunits
  rcases eq_or_ne n 0 with rfl | hne
  · obtain ⟨hzero, hvalue⟩ := units_of_small (n := 0) (by decide) hfinite (by simp)
    exact roundTo_spec hzero hpos (by rw [hvalue, Int.cast_zero, zero_mul]) (by decide)
  · have hproduct : (n : ℚ) * (scale d).toRat = (n * 10 ^ d : ℤ) := by
      rw [toRat_scale (le_of_units (Int.natAbs_pos.2 hne) hunits)]
      push_cast
      rfl
    have hk : (n * 10 ^ d).natAbs < 2 ^ 53 := by
      rw [Int.natAbs_mul, Int.natAbs_pow]
      exact hunits
    -- with a decimal place the number of units is even
    have heven : Even (n * 10 ^ d) := (Int.even_pow.2 ⟨by decide, by omega⟩).mul_left n
    obtain ⟨hmul, hvalue⟩ := mul_scale_spec hn.le hfinite hproduct hk
    obtain ⟨hround, hsame⟩ := roundHalfUp_intCast hmul hvalue hk (Or.inr heven)
    exact roundTo_spec hround hpos (hsame.trans hproduct.symm) hn.le

/-- **A power of ten that is not finite leaves nothing.** -/
theorem roundTo_of_beyond (hlow : 309 ≤ d) (hhigh : d ≤ 2 ^ 32 - 309) :
    ¬(roundTo d (ofInt n)).isFinite = true := fun hfinite =>
  (of_isFinite_roundTo (by omega) hfinite).2.ne' (scale_of_beyond hlow hhigh)

/-- **Small integers vanish** next to the scale of many places before the point. -/
theorem roundTo_of_negative (hn : n.natAbs ≤ 2 ^ 53) (hlow : 2 ^ 32 - 308 ≤ d)
    (hhigh : d ≤ 2 ^ 32 - 17) :
    (roundTo d (ofInt n)).isFinite = true ∧ (roundTo d (ofInt n)).toRat = (0 : ℤ) := by
  obtain ⟨hfinite, hpos, hsmall⟩ := scale_of_negative hlow hhigh
  have hproduct : |(n : ℚ) * (scale d).toRat| ≤ 2 ^ (-2 : ℤ) := by
    have hnq : |(n : ℚ)| ≤ 2 ^ 53 := by
      rw [← Int.cast_abs, Int.abs_eq_natAbs]
      exact_mod_cast hn
    rw [abs_mul, abs_of_pos hpos]
    calc |(n : ℚ)| * (scale d).toRat ≤ 2 ^ 53 * 2 ^ (-56 : ℤ) := by gcongr
      _ ≤ 2 ^ (-2 : ℤ) := by norm_num
  obtain ⟨hunits, hzero⟩ := units_of_small hn hfinite hproduct
  exact roundTo_spec hunits hpos (by rw [hzero, Int.cast_zero, zero_mul]) (by decide)

end Numeric

namespace Step

open Numeric

variable {o : Options}

/-- **What rounding to decimal places makes of an integer.**  An integer has no decimal places,
and should stay as it is.  But it is multiplied by a power of ten, cut after a half is added,
and divided again, with a rounding each time, and the number of places is put into 32 bits with
a sign.  So it is kept under a condition, and the other cases are those in which it can be told
without computing what becomes of it. -/
structure RoundsInteger (decimals : ℕ) (n : ℤ) (result : Value) : Prop where
  /-- The integer is kept exactly if its units of the last place lead back to it. -/
  eq_int_iff : result = .int n ↔ ScalesBack decimals n
  /-- Without decimal places it is kept if it is even or at most `2 ^ 52`. -/
  of_room : decimals = 0 → n.natAbs ≤ 2 ^ 52 ∨ Even n → result = .int n
  /-- Any other integer becomes the next one. -/
  of_odd : decimals = 0 → 2 ^ 52 < n.natAbs → Odd n →
    ∃ x : Binary64, x.isFinite = true ∧ x.toRat = (n + 1 : ℤ) ∧ result = .ofBinary64 x
  /-- With decimal places it is kept if its number of units is an exact integer. -/
  of_exact : 1 ≤ decimals → decimals ≤ 308 → n.natAbs * 10 ^ decimals ≤ maxExactInteger →
    result = .int n
  /-- A power of ten that is not finite leaves nothing. -/
  of_beyond : 309 ≤ decimals → decimals ≤ 2 ^ 32 - 309 → result = .null
  /-- Places that count as many negative ones leave zero. -/
  of_negative : 2 ^ 32 - 308 ≤ decimals → decimals ≤ 2 ^ 32 - 17 → result = .int 0

theorem round_eq_ofBinary64 (o : Options) (n : ℤ) :
    round o (.int n) = .ofBinary64 (roundTo (o.decimals.getD 0) (ofInt n)) :=
  rfl

/-- **An integer rounded to decimal places.** -/
theorem round_int (hd : ∀ d ∈ o.decimals, d < 2 ^ 32) (hn : n.natAbs ≤ maxExactInteger) :
    RoundsInteger (o.decimals.getD 0) n (round o (.int n)) := by
  have hlimit : o.decimals.getD 0 < 2 ^ 32 := by
    cases hdecimals : o.decimals with
    | none => norm_num
    | some d => exact hd d hdecimals
  have hbits : n.natAbs < 2 ^ 53 := Nat.lt_succ_of_le hn
  rw [round_eq_ofBinary64]
  generalize o.decimals.getD 0 = d at hlimit ⊢
  have hint : Value.ofBinary64 (roundTo d (ofInt n)) = .int n ↔
      (roundTo d (ofInt n)).isFinite = true ∧ (roundTo d (ofInt n)).toRat = n :=
    Value.ofBinary64_eq_int_iff hn
  exact {
    eq_int_iff := hint.trans (roundTo_eq_iff hlimit hbits)
    of_room := by
      rintro rfl hroom
      exact hint.2 (roundTo_zero hbits hroom)
    of_odd := by
      rintro rfl hlarge hodd
      obtain ⟨hfinite, hnext⟩ := roundTo_zero_of_odd hbits hlarge hodd
      exact ⟨_, hfinite, hnext, rfl⟩
    of_exact := fun hlow hhigh hunits =>
      hint.2 (roundTo_of_exact hlow hhigh (Nat.lt_succ_of_le hunits))
    of_beyond := fun hlow hhigh => Value.ofBinary64_eq_null (roundTo_of_beyond hlow hhigh)
    of_negative := fun hlow hhigh =>
      (Value.ofBinary64_eq_int_iff (Nat.zero_le _)).2 (roundTo_of_negative hbits.le hlow hhigh) }

/-- Thousandths of an integer whose number of them is just an exact integer. -/
theorem round_int_thousandths :
    (∀ d ∈ (some 3 : Option ℕ), d < 2 ^ 32) ∧ (-9007199254740 : ℤ).natAbs ≤ maxExactInteger ∧
      round { decimals := some 3 } (.int (-9007199254740)) = .int (-9007199254740) := by
  have hd : ∀ d ∈ (some 3 : Option ℕ), d < 2 ^ 32 := by
    rintro d ⟨⟩
    norm_num
  exact ⟨hd, by decide, (round_int (o := { decimals := some 3 }) hd (by decide)).of_exact
    (by decide) (by decide) (by decide)⟩

/-- Integers that are not kept: an odd one beyond `2 ^ 52`, one with too many units, zero with a
scale that is not finite, and one with a place before the point. -/
theorem round_int_moved :
    round {} (.int (2 ^ 52 + 1)) = .int (2 ^ 52 + 2) ∧
      round { decimals := some 1 } (.int (2 ^ 53 - 1)) = .int (2 ^ 53 - 2) ∧
      round { decimals := some 400 } (.int 0) = .null ∧
      round { decimals := some (2 ^ 32 - 1) } (.int 7) = .int 10 := by
  have hint {o : Options} {n k : ℤ} (hk : k.natAbs ≤ maxExactInteger)
      (h : roundTo (o.decimals.getD 0) (ofInt n) = ofInt k) : round o (.int n) = .int k := by
    rw [round_eq_ofBinary64, h]
    exact (Value.ofBinary64_eq_int_iff hk).2 (ofInt_spec (hk.trans (by decide)))
  exact ⟨hint (by decide) (by decide +kernel), hint (by decide) (by decide +kernel),
    Value.ofBinary64_eq_null (roundTo_of_beyond (by decide) (by decide)),
    hint (by decide) (by decide +kernel)⟩

end Step

end RecordFlow
