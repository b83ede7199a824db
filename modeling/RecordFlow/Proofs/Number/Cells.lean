import Mathlib.Data.Nat.Prime.Basic
import RecordFlow.Proofs.Number.Arithmetic

/-!
# Quotients that are rounded to an integer

The numbers that are rounded to an integer are those between the middles to its two neighbours
among the floating-point numbers: its cell (`RoundsTo.eq_natCast_iff`).  The neighbours are not
always equally far away, since below a power of two the places are half as wide as above it.

A middle has 54 digits, the last of them a one.  No quotient of two finite numbers is of this
form, as a divisor would bring its own digits (`div_offMiddle`), so ties need not be told apart,
and a quotient is rounded to an integer exactly if it is in the cell (`div_eq_intCast_iff`).

## Main definitions

* `InCell` — an exact value is between the middles next to an integer.
* `OffMiddle` — an exact value is no middle between two neighbours.
-/

namespace RecordFlow.Binary64

variable {x y : Binary64} {q r : ℚ} {k m n : ℕ} {e g : ℤ}

/-! ### Cells -/

/-- Half a place of the numbers in the binade of one half of `k`. -/
def halfPlace (k : ℕ) : ℚ :=
  2 ^ ((k.log2 : ℤ) - 54)

theorem halfPlace_pos (k : ℕ) : 0 < halfPlace k :=
  two_zpow_pos _

theorem log2_lt_of_le (hk : 0 < k) (hkn : k ≤ 2 * n) (hbits : n < 2 ^ 53) : k.log2 < 54 := by
  rw [Nat.log2_lt hk.ne']
  omega

theorem halfPlace_le (hk : 0 < k) (hkn : k ≤ 2 * n) (hbits : n < 2 ^ 53) : halfPlace k ≤ 1 / 2 := by
  have hlog2 := log2_lt_of_le hk hkn hbits
  calc halfPlace k ≤ 2 ^ (-1 : ℤ) := zpow_le_zpow_right₀ (by norm_num) (by omega)
    _ = 1 / 2 := by norm_num

/-- **An exact value is in the cell of an integer:** it is less than half a place away from it.
Then it is rounded to the integer, and a value that is further away is not. -/
def InCell (n : ℤ) (q : ℚ) : Prop :=
  -halfPlace (2 * n.natAbs - 1) < n.sign * (q - n) ∧
    n.sign * (q - n) < halfPlace (2 * n.natAbs)

theorem inCell_zero (q : ℚ) : InCell 0 q := by
  simp only [InCell, Int.sign_zero, Int.cast_zero, zero_mul]
  exact ⟨neg_neg_of_pos (halfPlace_pos _), halfPlace_pos _⟩

theorem inCell_natCast (hn : 0 < n) :
    InCell n q ↔ (n : ℚ) - halfPlace (2 * n - 1) < q ∧ q < n + halfPlace (2 * n) := by
  have hsign : (n : ℤ).sign = 1 := Int.sign_eq_one_of_pos (by exact_mod_cast hn)
  simp only [InCell, hsign, Int.natAbs_natCast, Int.cast_one, one_mul, Int.cast_natCast]
  constructor
  · rintro ⟨hlow, hhigh⟩
    exact ⟨by linarith, by linarith⟩
  · rintro ⟨hlow, hhigh⟩
    exact ⟨by linarith, by linarith⟩

/-- The cell of the opposite integer is the opposite cell. -/
theorem inCell_neg {n : ℤ} : InCell (-n) (-q) ↔ InCell n q := by
  have hdistance : (-n.sign : ℚ) * (-q - -n) = n.sign * (q - n) := by ring
  simp only [InCell, Int.sign_neg, Int.natAbs_neg, Int.cast_neg, hdistance]

/-- A cell reaches less than one away from zero. -/
theorem InCell.abs_lt_succ {n : ℤ} (h : InCell n q) (hn : n ≠ 0) (hbits : n.natAbs < 2 ^ 53) :
    |q| < n.natAbs + 1 := by
  have hnatCast : ∀ {k : ℕ} {q : ℚ}, 0 < k → k < 2 ^ 53 → InCell k q → |q| < k + 1 := by
    intro k q hk hbits h
    obtain ⟨hlow, hhigh⟩ := (inCell_natCast hk).1 h
    have hone : (1 : ℚ) ≤ k := by exact_mod_cast hk
    have hbelow := halfPlace_le (k := 2 * k - 1) (by omega) (Nat.sub_le _ _) hbits
    have habove := halfPlace_le (k := 2 * k) (by omega) le_rfl hbits
    exact abs_lt.2 ⟨by linarith, by linarith⟩
  rcases lt_or_gt_of_ne hn with hneg | hpos
  · obtain ⟨k, rfl⟩ : ∃ k : ℕ, n = -k := ⟨n.natAbs, by omega⟩
    rw [← inCell_neg, neg_neg] at h
    rw [← abs_neg, Int.natAbs_neg, Int.natAbs_natCast]
    exact hnatCast (by omega) (by omega) h
  · obtain ⟨k, rfl⟩ : ∃ k : ℕ, n = k := ⟨n.natAbs, by omega⟩
    exact hnatCast (by omega) (by omega) h

/-- Half of a natural number is between two powers of two. -/
theorem two_zpow_log2_half (hk : 0 < k) :
    (2 : ℚ) ^ ((k.log2 : ℤ) - 1) ≤ k / 2 ∧ (k : ℚ) / 2 < 2 ^ (k.log2 : ℤ) := by
  obtain ⟨hlow, hhigh⟩ := two_zpow_log2 hk
  rw [zpow_sub_one₀ two_ne_zero]
  rw [zpow_add_one₀ two_ne_zero] at hhigh
  exact ⟨by linarith, by linarith⟩

/-- In one binade, a multiple of the place is what a number is rounded to if it is less than
half a place away; the middle aside. -/
theorem RoundsTo.eq_iff_abs_lt (h : RoundsTo q r) {k : ℕ} (hk : (n : ℚ) = k * 2 ^ unitExponent q)
    (hmiddle : |q - n| ≠ 2 ^ unitExponent q / 2) : r = n ↔ |q - n| < 2 ^ unitExponent q / 2 := by
  constructor
  · rintro rfl
    refine lt_of_le_of_ne ?_ hmiddle
    rw [abs_sub_comm]
    exact h.abs_sub_le
  · intro hlt
    have hpos := two_zpow_pos (unitExponent q)
    rw [hk]
    refine h.eq_of_isNearest (.of_lt ?_)
    have hunits : q / 2 ^ unitExponent q - k = (q - n) / 2 ^ unitExponent q := by
      rw [hk, sub_div, mul_div_cancel_right₀ _ hpos.ne']
    rw [hunits, abs_div, abs_of_pos hpos, div_lt_iff₀ hpos]
    linarith

/-- An integer is a whole number of half places. -/
theorem exists_mul_halfPlace (hk : 0 < k) (hkn : k ≤ 2 * n) (hbits : n < 2 ^ 53) :
    ∃ u : ℕ, Even u ∧ (n : ℚ) = (n * u : ℕ) * halfPlace k ∧ 2 ^ 54 ≤ k * u := by
  have hlog2 := log2_lt_of_le hk hkn hbits
  refine ⟨2 ^ (54 - k.log2), Nat.even_pow.2 ⟨even_two, by omega⟩, ?_, ?_⟩
  · have hcancel : (2 : ℚ) ^ (54 - k.log2) * halfPlace k = 2 ^ (0 : ℤ) :=
      two_pow_mul_two_zpow (54 - k.log2) (by omega)
    rw [Nat.cast_mul, Nat.cast_pow, Nat.cast_ofNat, mul_assoc, hcancel, zpow_zero, mul_one]
  · calc 2 ^ 54 = 2 ^ k.log2 * 2 ^ (54 - k.log2) := by
          rw [← Nat.pow_add, Nat.add_sub_cancel' (by omega)]
      _ ≤ k * 2 ^ (54 - k.log2) := Nat.mul_le_mul_right _ (Nat.log2_self_le hk.ne')

/-- The same where the number is in the binade of one half of `k`. -/
theorem RoundsTo.eq_natCast_iff_of_log (h : RoundsTo q r) (hk : 0 < k) (hkn : k ≤ 2 * n)
    (hbits : n < 2 ^ 53) (hlog : Int.log 2 q = (k.log2 : ℤ) - 1)
    (hmiddle : |q - n| ≠ halfPlace k) : r = n ↔ |q - n| < halfPlace k := by
  have hunit : unitExponent q = (k.log2 : ℤ) - 54 + 1 := by
    unfold unitExponent
    omega
  have hhalf : (2 : ℚ) ^ unitExponent q = halfPlace k * 2 := by
    rw [hunit, zpow_add_one₀ two_ne_zero, halfPlace]
  obtain ⟨u, heven, hwhole, -⟩ := exists_mul_halfPlace hk hkn hbits
  obtain ⟨v, rfl⟩ := heven.two_dvd
  have hn : (n : ℚ) = (n * v : ℕ) * 2 ^ unitExponent q := by
    rw [hhalf]
    calc (n : ℚ) = (n * (2 * v) : ℕ) * halfPlace k := hwhole
      _ = (n * v : ℕ) * (halfPlace k * 2) := by push_cast; ring
  have hiff := h.eq_iff_abs_lt hn
  rw [hhalf, mul_div_cancel_right₀ _ two_ne_zero] at hiff
  exact hiff hmiddle

/-- **A number is rounded to a natural number if it is in the cell,** unless it is a middle. -/
theorem RoundsTo.eq_natCast_iff (hq : 0 < q) (h : RoundsTo q r) (hn : 0 < n) (hbits : n < 2 ^ 53)
    (hlow : q ≠ n - halfPlace (2 * n - 1)) (hhigh : q ≠ n + halfPlace (2 * n)) :
    r = n ↔ InCell n q := by
  rw [inCell_natCast hn]
  rcases le_or_gt (n : ℚ) q with hle | hlt
  · -- from the number on
    have hpos := halfPlace_pos (2 * n - 1)
    have hk : 0 < 2 * n := by omega
    have hpower : (n : ℚ) + 1 ≤ 2 ^ ((2 * n).log2 : ℤ) := by
      have := (two_zpow_log2_half hk).2
      rw [Nat.cast_mul, Nat.cast_ofNat, mul_div_cancel_left₀ _ two_ne_zero, zpow_natCast] at this
      rw [zpow_natCast]
      exact_mod_cast this
    rcases lt_or_ge q (2 ^ ((2 * n).log2 : ℤ)) with hbinade | hbeyond
    · have hlog : Int.log 2 q = ((2 * n).log2 : ℤ) - 1 := by
        refine log_eq_of_le_of_lt (le_trans ?_ hle) (by rwa [sub_add_cancel])
        simpa using (two_zpow_log2_half hk).1
      rw [h.eq_natCast_iff_of_log hk le_rfl hbits hlog ?_, abs_of_nonneg (sub_nonneg.2 hle)]
      · constructor
        · intro hclose
          exact ⟨by linarith, by linarith⟩
        · intro hcell
          linarith [hcell.2]
      · rw [abs_of_nonneg (sub_nonneg.2 hle)]
        intro hmiddle
        exact hhigh (by linarith)
    · refine iff_of_false ?_ fun hcell => ?_
      · rintro rfl
        have := (roundsTo_two_zpow (by omega)).mono (two_zpow_pos _) h hbeyond
        linarith
      · linarith [hcell.2, halfPlace_le hk le_rfl hbits]
  · -- below the number
    have hpos := halfPlace_pos (2 * n)
    have hk : 0 < 2 * n - 1 := by omega
    have hhalf : ((2 * n - 1 : ℕ) : ℚ) / 2 = n - 1 / 2 := by
      rw [Nat.cast_sub (by omega), Nat.cast_mul]
      push_cast
      ring
    obtain ⟨hpower, hnext⟩ := two_zpow_log2_half hk
    rcases le_or_gt (2 ^ (((2 * n - 1).log2 : ℤ) - 1)) q with hbinade | hbefore
    · have hlog : Int.log 2 q = ((2 * n - 1).log2 : ℤ) - 1 := by
        refine log_eq_of_le_of_lt hbinade (hlt.trans_le ?_)
        have hlog2 := Nat.lt_log2_self (n := 2 * n - 1)
        rw [sub_add_cancel, zpow_natCast]
        rw [Nat.pow_succ] at hlog2
        exact_mod_cast (show n ≤ 2 ^ (2 * n - 1).log2 by omega)
      rw [h.eq_natCast_iff_of_log hk (Nat.sub_le _ _) hbits hlog ?_,
        abs_of_neg (sub_neg.2 hlt)]
      · constructor
        · intro hclose
          exact ⟨by linarith, by linarith⟩
        · intro hcell
          linarith [hcell.1]
      · rw [abs_of_neg (sub_neg.2 hlt)]
        intro hmiddle
        exact hlow (by linarith)
    · refine iff_of_false ?_ fun hcell => ?_
      · rintro rfl
        have := h.mono hq (roundsTo_two_zpow (by omega)) hbefore.le
        linarith
      · linarith [hcell.1, halfPlace_le hk (Nat.sub_le _ _) hbits]

/-! ### Middles -/

/-- **An exact value is no middle:** it is not written with 54 digits, or more, of which the
last is a one.  At a middle the rule for ties decides, and the cell of an integer alone does not
tell what the value is rounded to. -/
def OffMiddle (q : ℚ) : Prop :=
  ∀ k : ℕ, Odd k → 2 ^ 53 ≤ k → ∀ e : ℤ, |q| ≠ k * 2 ^ e

namespace OffMiddle

theorem neg (h : OffMiddle q) : OffMiddle (-q) := by
  intro k hk hlarge e
  rw [abs_neg]
  exact h k hk hlarge e

/-- A whole and half of its last place make up a number that is off the middle. -/
theorem ne_mul_halfPlace (h : OffMiddle q) {j : ℕ} (hodd : Odd j) (hlarge : 2 ^ 53 ≤ j) (k : ℕ) :
    q ≠ j * halfPlace k := by
  intro hq
  have hpos := halfPlace_pos k
  exact h j hodd hlarge _ (by rw [hq, abs_of_nonneg (by positivity), halfPlace])

/-- It is not in the middle to the number above an integer. -/
theorem ne_add (h : OffMiddle q) (hn : 0 < n) (hbits : n < 2 ^ 53) :
    q ≠ n + halfPlace (2 * n) := by
  obtain ⟨u, heven, hwhole, hlarge⟩ := exists_mul_halfPlace (by omega) le_rfl hbits
  have hsum : (n : ℚ) + halfPlace (2 * n) = (n * u + 1 : ℕ) * halfPlace (2 * n) := by
    rw [Nat.cast_succ, add_mul, ← hwhole, one_mul]
  rw [Nat.mul_assoc] at hlarge
  rw [hsum]
  exact h.ne_mul_halfPlace (heven.mul_left n).add_one (by omega) _

/-- It is not in the middle to the number below an integer. -/
theorem ne_sub (h : OffMiddle q) (hn : 0 < n) (hbits : n < 2 ^ 53) :
    q ≠ n - halfPlace (2 * n - 1) := by
  obtain ⟨u, heven, hwhole, hlarge⟩ :=
    exists_mul_halfPlace (k := 2 * n - 1) (by omega) (Nat.sub_le _ _) hbits
  have hu : 0 < u := Nat.pos_of_ne_zero (by rintro rfl; omega)
  have hnu : 2 ^ 54 + u ≤ 2 * (n * u) := by
    rw [Nat.sub_mul, Nat.one_mul, Nat.mul_assoc] at hlarge
    omega
  have hdifference : (n : ℚ) - halfPlace (2 * n - 1) =
      (n * u - 1 : ℕ) * halfPlace (2 * n - 1) := by
    rw [Nat.cast_pred (by omega), sub_mul, ← hwhole, one_mul]
  rw [hdifference]
  exact h.ne_mul_halfPlace (Nat.Even.sub_odd (by omega) (heven.mul_left n) odd_one) (by omega) _

end OffMiddle

theorem exists_abs_eq (hx : x.isFinite = true) :
    ∃ (m : ℕ) (e : ℤ), m < 2 ^ 53 ∧ |x.toRat| = m * 2 ^ e := by
  cases x with
  | nan => cases hx
  | infinite s => cases hx
  | finite s m e hm =>
    have hpos := two_zpow_pos e
    exact ⟨m, e, hm.1, by rw [toRat, abs_signed, abs_of_nonneg (by positivity)]⟩

/-- An odd factor of a number of 53 bits has no more bits, whatever the powers of two. -/
theorem lt_of_odd_factor {c : ℕ} {f : ℤ} (hk : Odd k) (hc : 0 < c) (hbits : m < 2 ^ 53)
    (h : (m : ℚ) * 2 ^ e = (k * c : ℕ) * 2 ^ f) : k < 2 ^ 53 := by
  have hscale : ∀ {a : ℤ}, min e f ≤ a → (2 : ℚ) ^ a = 2 ^ (a - min e f).toNat * 2 ^ min e f :=
    fun ha => (two_pow_mul_two_zpow _ (by omega)).symm
  have hnat : m * 2 ^ (e - min e f).toNat = k * c * 2 ^ (f - min e f).toNat := by
    rw [hscale (min_le_left e f), hscale (min_le_right e f), ← mul_assoc, ← mul_assoc] at h
    exact_mod_cast mul_right_cancel₀ (two_zpow_pos _).ne' h
  have hdvd : k ∣ m := by
    exact Nat.Coprime.dvd_of_dvd_mul_right (hk.coprime_two_right.pow_right _)
      ⟨c * 2 ^ (f - min e f).toNat, by rw [hnat, Nat.mul_assoc]⟩
  have hm : 0 < m := by
    have hpos : 0 < k * c * 2 ^ (f - min e f).toNat :=
      Nat.mul_pos (Nat.mul_pos hk.pos hc) (Nat.two_pow_pos _)
    exact Nat.pos_of_mul_pos_right (hnat ▸ hpos)
  exact (Nat.le_of_dvd hm hdvd).trans_lt hbits

/-- **A quotient of finite numbers is no middle.** -/
theorem div_offMiddle (hx : x.isFinite = true) (hy : y.isFinite = true) (hne : y.toRat ≠ 0) :
    OffMiddle (x.toRat / y.toRat) := by
  intro k hk hlarge j hmiddle
  obtain ⟨m, e, hbits, hxabs⟩ := exists_abs_eq hx
  obtain ⟨c, f, -, hyabs⟩ := exists_abs_eq hy
  have hc : 0 < c := by
    refine Nat.pos_of_ne_zero ?_
    rintro rfl
    exact hne (abs_eq_zero.1 (by rw [hyabs, Nat.cast_zero, zero_mul]))
  have hproduct : (m : ℚ) * 2 ^ e = (k * c : ℕ) * 2 ^ (j + f) := by
    rw [abs_div, div_eq_iff (abs_ne_zero.2 hne), hxabs, hyabs] at hmiddle
    rw [hmiddle, zpow_add₀ two_ne_zero, Nat.cast_mul]
    ring
  exact absurd (lt_of_odd_factor hk hc hbits hproduct) (not_lt.2 hlarge)

/-! ### Quotients that are rounded to an integer -/

theorem Rounds.eq_natCast_iff (h : Rounds q r) (hq : OffMiddle q) (hn : 0 < n)
    (hbits : n < 2 ^ 53) : r = n ↔ InCell n q := by
  rcases lt_or_ge 0 q with hpos | hneg
  · exact (h.of_pos hpos).eq_natCast_iff hpos hn hbits (hq.ne_sub hn hbits) (hq.ne_add hn hbits)
  · have hr : r ≤ 0 := h.mono (Or.inr (Or.inl ⟨rfl, rfl⟩)) hneg
    have hone : (1 : ℚ) ≤ n := by exact_mod_cast hn
    have hhalf := halfPlace_le (k := 2 * n - 1) (by omega) (Nat.sub_le _ _) hbits
    refine iff_of_false (fun heq => ?_) fun hcell => ?_
    · linarith
    · linarith [((inCell_natCast hn).1 hcell).1]

/-- **What is no middle is rounded to an integer if it is in the cell.** -/
theorem Rounds.eq_intCast_iff {n : ℤ} (h : Rounds q r) (hq : OffMiddle q) (hn : n ≠ 0)
    (hbits : n.natAbs < 2 ^ 53) : r = n ↔ InCell n q := by
  rcases lt_or_gt_of_ne hn with hneg | hpos
  · obtain ⟨k, rfl⟩ : ∃ k : ℕ, n = -k := ⟨n.natAbs, by omega⟩
    have hiff := h.neg.eq_natCast_iff (n := k) hq.neg (by omega) (by omega)
    rw [Int.cast_neg, Int.cast_natCast, ← inCell_neg, neg_neg, ← hiff, neg_eq_iff_eq_neg]
  · obtain ⟨k, rfl⟩ : ∃ k : ℕ, n = k := ⟨n.natAbs, by omega⟩
    exact h.eq_natCast_iff hq (by omega) (by omega)

/-- **A quotient is rounded to an integer exactly if it is in the cell.** -/
theorem div_eq_intCast_iff {n : ℤ} (hx : x.isFinite = true) (hy : y.isFinite = true)
    (hne : y.toRat ≠ 0) (hn : n ≠ 0) (hbits : n.natAbs < 2 ^ 53) :
    (x.div y).isFinite = true ∧ (x.div y).toRat = n ↔ InCell n (x.toRat / y.toRat) := by
  have hquotient := isRounded_div hx hy hne
  have hmiddle := div_offMiddle hx hy hne
  constructor
  · rintro ⟨hfinite, hvalue⟩
    exact ((hquotient.rounds hfinite).eq_intCast_iff hmiddle hn hbits).1 hvalue
  · intro hcell
    have hfinite : (x.div y).isFinite = true := by
      rw [hquotient.isFinite_iff]
      calc |x.toRat / y.toRat| < n.natAbs + 1 := hcell.abs_lt_succ hn hbits
        _ ≤ (2 ^ 53 : ℕ) := by exact_mod_cast hbits
        _ ≤ overflowBound := by exact_mod_cast two_pow_lt_overflowBound.le
    exact ⟨hfinite, ((hquotient.rounds hfinite).eq_intCast_iff hmiddle hn hbits).2 hcell⟩

end RecordFlow.Binary64
