import RecordFlow.Number.Numeral
import RecordFlow.Proofs.Number.Rounding

/-!
# Exact values

A finite number is compared, and an integer or a numeral is read, by way of exact values.

* **Finite numbers are compared by their exact values** (`compare?_eq_compare`): the sum of two
  of them is exact at the smaller exponent, so the sign of their difference is that of the exact
  one.
* **An integer is rounded** (`rounds_ofInt`), which keeps the order of integers
  (`toRat_ofInt_mono`) and changes none up to `2 ^ 53` (`ofInt_spec`).
* **A numeral is finite** just below the limit of finite numbers (`isFinite_ofDecimal_iff`),
  also where its size is settled without being computed.

## Main definitions

* `Rounds` — what a number of any sign is rounded to.
-/

namespace RecordFlow.Binary64

variable {x y : Binary64} {q r q' r' : ℚ} {a b : ℤ} {n d : ℕ}

/-! ### Comparisons -/

theorem cast_signed (s : Bool) (n : ℕ) :
    ((if s then -(n : ℤ) else (n : ℤ) : ℤ) : ℚ) = signed s n := by
  cases s <;> simp [signed]

theorem signed_mul (s : Bool) (q r : ℚ) : signed s q * r = signed s (q * r) := by
  cases s <;> simp [signed]

theorem signed_not (s : Bool) (q : ℚ) : signed (!s) q = -signed s q := by
  cases s <;> simp [signed]

/-- **The sum of two finite numbers is exact** at the smaller of their exponents. -/
theorem exactSum_mul_two_zpow (s : Bool) (m : ℕ) (e : ℤ) (t : Bool) (n : ℕ) (f : ℤ) :
    ((exactSum s m e t n f).1 : ℚ) * 2 ^ min e f = signed s (m * 2 ^ e) + signed t (n * 2 ^ f) := by
  have hscaled : ∀ (s : Bool) (m : ℕ) (k : ℤ), min e f ≤ k →
      ((if s then -((m * 2 ^ (k - min e f).toNat : ℕ) : ℤ)
        else ((m * 2 ^ (k - min e f).toNat : ℕ) : ℤ) : ℤ) : ℚ) * 2 ^ min e f =
        signed s (m * 2 ^ k) := by
    intro s m k hk
    rw [cast_signed, signed_mul, Nat.cast_mul, Nat.cast_pow, Nat.cast_ofNat, mul_assoc,
      two_pow_mul_two_zpow _ (show ((k - min e f).toNat : ℤ) + min e f = k by omega)]
  rw [← hscaled s m e (min_le_left e f), ← hscaled t n f (min_le_right e f), ← add_mul,
    ← Int.cast_add]
  rfl

/-- **Finite numbers are compared by their exact values.** -/
theorem compare?_eq_compare (hx : x.isFinite = true) (hy : y.isFinite = true) :
    compare? x y = some (compare x.toRat y.toRat) := by
  cases x with
  | nan => cases hx
  | infinite s => cases hx
  | finite s m e hm =>
    cases y with
    | nan => cases hy
    | infinite t => cases hy
    | finite t n f hn =>
      have hpos := two_zpow_pos (min e f)
      have hdifference := exactSum_mul_two_zpow s m e (!t) n f
      rw [signed_not, ← sub_eq_add_neg] at hdifference
      simp only [compare?, compareFinite, toRat, Option.some.injEq]
      generalize (exactSum s m e (!t) n f).1 = d at hdifference ⊢
      rcases lt_trichotomy d 0 with hd | hd | hd
      · have hdq : (d : ℚ) < 0 := by exact_mod_cast hd
        have hneg := hdifference ▸ mul_neg_of_neg_of_pos hdq hpos
        rw [compare_lt_iff_lt.2 hd, compare_lt_iff_lt.2 (sub_neg.1 hneg)]
      · rw [hd, Int.cast_zero, zero_mul] at hdifference
        rw [compare_eq_iff_eq.2 hd, compare_eq_iff_eq.2 (sub_eq_zero.1 hdifference.symm)]
      · have hdq : (0 : ℚ) < d := by exact_mod_cast hd
        have hpos := hdifference ▸ mul_pos hdq hpos
        rw [compare_gt_iff_gt.2 hd, compare_gt_iff_gt.2 (sub_pos.1 hpos)]

theorem eq_eq_decide (hx : x.isFinite = true) (hy : y.isFinite = true) :
    x.eq y = decide (x.toRat = y.toRat) := by
  rw [eq, compare?_eq_compare hx hy, Bool.eq_iff_iff, decide_eq_true_iff, beq_iff_eq,
    Option.some.injEq, compare_eq_iff_eq]

theorem lt_eq_decide (hx : x.isFinite = true) (hy : y.isFinite = true) :
    x.lt y = decide (x.toRat < y.toRat) := by
  rw [lt, compare?_eq_compare hx hy, Bool.eq_iff_iff, decide_eq_true_iff, beq_iff_eq,
    Option.some.injEq, compare_lt_iff_lt]

theorem le_eq_decide (hx : x.isFinite = true) (hy : y.isFinite = true) :
    x.le y = decide (x.toRat ≤ y.toRat) := by
  rw [le, lt_eq_decide hx hy, eq_eq_decide hx hy, Bool.eq_iff_iff, Bool.or_eq_true,
    decide_eq_true_iff, decide_eq_true_iff, decide_eq_true_iff, le_iff_lt_or_eq]

/-! ### Finite results -/

theorem overflowBound_pos : 0 < overflowBound := by
  decide +kernel

theorem two_pow_lt_overflowBound : 2 ^ 53 < overflowBound := by
  decide +kernel

/-- **A quotient is rounded to a finite number** just below the limit. -/
theorem isFinite_ofRatio_iff (negative : Bool) (hd : 0 < d) :
    (ofRatio negative n d).isFinite = true ↔ n < overflowBound * d := by
  rcases Nat.eq_zero_or_pos n with rfl | hn
  · exact iff_of_true rfl (Nat.mul_pos overflowBound_pos hd)
  · have hdq : (0 : ℚ) < d := by exact_mod_cast hd
    have hx : (0 : ℚ) < (n : ℚ) / d := div_pos (by exact_mod_cast hn) hdq
    have hbound : (n : ℚ) / d < overflowBound ↔ n < overflowBound * d := by
      rw [div_lt_iff₀ hdq]
      exact_mod_cast Iff.rfl
    obtain ⟨y, hy, hfinite, -⟩ := exists_roundsTo_ofRatio negative hn hd
    rw [hfinite, ← hbound]
    constructor
    · intro hlt
      by_contra hge
      exact absurd hlt (not_lt.2 (hy.le_of_overflowBound_le (not_lt.1 hge)))
    · exact hy.lt_of_lt_overflowBound hx

theorem digitCount_le_iff {k : ℕ} (hk : 0 < k) : digitCount n ≤ k ↔ n < 10 ^ k :=
  Nat.length_toDigits_le_iff (by decide) hk

/-- **A row of decimal digits with a point in it is rounded to a finite number** just below the
limit. -/
theorem isFinite_ofDecimal_iff (negative : Bool) (n k : ℕ) :
    (ofDecimal negative n (-k)).isFinite = true ↔ n < overflowBound * 10 ^ k := by
  have hten : 0 < 10 ^ k := Nat.pow_pos (by decide)
  unfold ofDecimal
  split
  · next hzero =>
    rw [hzero]
    exact iff_of_true rfl (Nat.mul_pos overflowBound_pos hten)
  split
  · next hlarge =>
    -- so many digits before the point are beyond every finite number
    refine iff_of_false Bool.false_ne_true (not_lt.2 ?_)
    have hbound : overflowBound ≤ 10 ^ 400 := by decide +kernel
    calc overflowBound * 10 ^ k ≤ 10 ^ 400 * 10 ^ k := Nat.mul_le_mul_right _ hbound
      _ = 10 ^ (400 + k) := (Nat.pow_add 10 400 k).symm
      _ ≤ n := not_lt.1 fun hlt =>
          absurd ((digitCount_le_iff (show 0 < 400 + k by omega)).2 hlt) (by omega)
  split
  · next hsmall =>
    refine iff_of_true rfl ?_
    calc n < 10 ^ k := (digitCount_le_iff (by omega)).1 (by omega)
      _ ≤ overflowBound * 10 ^ k := Nat.le_mul_of_pos_left _ overflowBound_pos
  split
  · next hk =>
    obtain rfl : k = 0 := by omega
    simpa using isFinite_ofRatio_iff (n := n) negative Nat.one_pos
  · rw [neg_neg, Int.toNat_natCast]
    exact isFinite_ofRatio_iff negative hten

/-! ### Numbers of any sign -/

/-- **What a number of any sign is rounded to:** its magnitude is rounded, and keeps its
sign. -/
def Rounds (q r : ℚ) : Prop :=
  0 < q ∧ RoundsTo q r ∨ q = 0 ∧ r = 0 ∨ q < 0 ∧ RoundsTo (-q) (-r)

/-- Rounding keeps the order of numbers of any sign. -/
theorem Rounds.mono (h : Rounds q r) (h' : Rounds q' r') (hle : q ≤ q') : r ≤ r' := by
  rcases h with ⟨hq, hr⟩ | ⟨hq, rfl⟩ | ⟨hq, hr⟩ <;>
    rcases h' with ⟨hq', hr'⟩ | ⟨hq', rfl⟩ | ⟨hq', hr'⟩
  · exact hr.mono hq hr' hle
  · linarith
  · linarith
  · exact hr'.nonneg
  · exact le_rfl
  · linarith
  · linarith [hr.nonneg, hr'.nonneg]
  · linarith [hr.nonneg]
  · exact neg_le_neg_iff.1 (hr'.mono (neg_pos.2 hq') hr (neg_le_neg hle))

namespace Rounds

theorem neg (h : Rounds q r) : Rounds (-q) (-r) := by
  rcases h with ⟨hq, hr⟩ | ⟨hq, hr⟩ | ⟨hq, hr⟩
  · refine Or.inr (Or.inr ⟨neg_lt_zero.2 hq, ?_⟩)
    rwa [neg_neg, neg_neg]
  · exact Or.inr (Or.inl ⟨neg_eq_zero.2 hq, neg_eq_zero.2 hr⟩)
  · exact Or.inl ⟨neg_pos.2 hq, hr⟩

theorem of_pos (h : Rounds q r) (hq : 0 < q) : RoundsTo q r := by
  rcases h with ⟨-, hr⟩ | ⟨hzero, -⟩ | ⟨hneg, -⟩
  · exact hr
  · exact absurd hzero hq.ne'
  · exact absurd hneg hq.not_gt

theorem of_neg (h : Rounds q r) (hq : q < 0) : RoundsTo (-q) (-r) :=
  h.neg.of_pos (neg_pos.2 hq)

theorem eq_zero (h : Rounds q r) (hq : q = 0) : r = 0 := by
  rcases h with ⟨hpos, -⟩ | ⟨-, hr⟩ | ⟨hneg, -⟩
  · exact absurd hq hpos.ne'
  · exact hr
  · exact absurd hq hneg.ne

/-- An integer number of units is not rounded if its magnitude is not. -/
theorem eq_of_natAbs {k : ℤ} {u : ℚ} (h : Rounds (k * u) r) (hu : 0 < u)
    (hnat : 0 < k.natAbs → ∀ {y}, RoundsTo (k.natAbs * u) y → y = k.natAbs * u) : r = k * u := by
  rcases lt_trichotomy k 0 with hneg | rfl | hpos
  · obtain ⟨j, rfl⟩ : ∃ j : ℕ, k = -j := ⟨k.natAbs, by omega⟩
    have hj : (0 : ℚ) < j := by exact_mod_cast (show 0 < j by omega)
    rw [Int.cast_neg, Int.cast_natCast, neg_mul] at h ⊢
    have hr := h.of_neg (neg_neg_of_pos (mul_pos hj hu))
    rw [neg_neg] at hr
    rw [Int.natAbs_neg, Int.natAbs_natCast] at hnat
    rw [← neg_eq_iff_eq_neg, hnat (by omega) hr]
  · rw [Int.cast_zero, zero_mul] at h ⊢
    exact h.eq_zero rfl
  · obtain ⟨j, rfl⟩ : ∃ j : ℕ, k = j := ⟨k.natAbs, by omega⟩
    have hj : (0 : ℚ) < j := by exact_mod_cast (show 0 < j by omega)
    exact hnat (by omega) (h.of_pos (mul_pos hj hu))

end Rounds

/-- **An integer is rounded to a finite number** below the limit. -/
theorem rounds_ofInt (ha : a.natAbs < overflowBound) :
    (ofInt a).isFinite = true ∧ Rounds a (ofInt a).toRat := by
  have hfinite : (ofInt a).isFinite = true := by
    rw [ofInt, isFinite_ofRatio_iff _ Nat.one_pos, Nat.mul_one]
    exact ha
  refine ⟨hfinite, ?_⟩
  rcases eq_or_ne a 0 with rfl | hne
  · exact Or.inr (Or.inl ⟨Int.cast_zero, by simp [ofInt, ofRatio, zero, toRat, signed]⟩)
  · obtain ⟨y, hy, -, hvalue⟩ :=
      exists_roundsTo_ofRatio (decide (a < 0)) (Int.natAbs_pos.2 hne) Nat.one_pos
    have habs : ((a.natAbs : ℕ) : ℚ) / (1 : ℕ) = |(a : ℚ)| := by
      rw [Nat.cast_one, div_one, Nat.cast_natAbs, Int.cast_abs]
    rw [habs] at hy
    have hrat : (ofInt a).toRat = signed (decide (a < 0)) y := hvalue hfinite
    rw [hrat]
    rcases lt_or_gt_of_ne hne with hneg | hpos
    · have hq : (a : ℚ) < 0 := by exact_mod_cast hneg
      rw [decide_eq_true hneg]
      rw [abs_of_neg hq] at hy
      exact Or.inr (Or.inr ⟨hq, by simpa [signed] using hy⟩)
    · have hq : (0 : ℚ) < a := by exact_mod_cast hpos
      rw [decide_eq_false (by omega)]
      rw [abs_of_pos hq] at hy
      exact Or.inl ⟨hq, by simpa [signed] using hy⟩

/-- Integers keep their order. -/
theorem toRat_ofInt_mono (ha : a.natAbs < overflowBound) (hb : b.natAbs < overflowBound)
    (h : a ≤ b) : (ofInt a).toRat ≤ (ofInt b).toRat :=
  (rounds_ofInt ha).2.mono (rounds_ofInt hb).2 (by exact_mod_cast h)

/-- A natural number up to `2 ^ 53` is not rounded. -/
theorem RoundsTo.eq_natCast (hn : 0 < n) (hle : n ≤ 2 ^ 53) (h : RoundsTo (n : ℚ) r) : r = n := by
  have hnq : (0 : ℚ) < n := by exact_mod_cast hn
  rcases hle.eq_or_lt with rfl | hlt
  · have hlog : Int.log 2 ((2 ^ 53 : ℕ) : ℚ) = 53 :=
      log_eq_of_le_of_lt (by norm_num) (by norm_num)
    refine h.eq_of_natCast (k := 2 ^ 52) ?_
    rw [unitExponent, hlog]
    norm_num
  · have hlog : Int.log 2 (n : ℚ) < 53 := by
      refine (Int.lt_zpow_iff_log_lt (by norm_num) hnq).1 ?_
      have : (n : ℚ) < 2 ^ 53 := by exact_mod_cast hlt
      exact_mod_cast this
    -- the last place of the number is a fraction
    obtain ⟨k, hk⟩ := Int.eq_ofNat_of_zero_le
      (show 0 ≤ -unitExponent (n : ℚ) by unfold unitExponent; omega)
    refine h.eq_of_natCast (k := n * 2 ^ k) ?_
    have hcancel : (2 : ℚ) ^ k * 2 ^ unitExponent (n : ℚ) = 2 ^ (0 : ℤ) :=
      two_pow_mul_two_zpow k (by omega)
    rw [Nat.cast_mul, Nat.cast_pow, Nat.cast_ofNat, mul_assoc, hcancel, zpow_zero, mul_one]

/-- **An integer up to `2 ^ 53` is not rounded.** -/
theorem Rounds.eq_intCast {k : ℤ} (h : Rounds (k : ℚ) r) (hk : k.natAbs ≤ 2 ^ 53) : r = k := by
  rw [← mul_one (k : ℚ)] at h ⊢
  refine h.eq_of_natAbs one_pos fun hpos y hy => ?_
  rw [mul_one] at hy ⊢
  exact hy.eq_natCast hpos hk

theorem toRat_ofInt (ha : a.natAbs ≤ 2 ^ 53) : (ofInt a).toRat = a :=
  (rounds_ofInt (ha.trans_lt two_pow_lt_overflowBound)).2.eq_intCast ha

theorem ofInt_spec (ha : a.natAbs ≤ 2 ^ 53) : (ofInt a).isFinite = true ∧ (ofInt a).toRat = a :=
  ⟨(rounds_ofInt (ha.trans_lt two_pow_lt_overflowBound)).1, toRat_ofInt ha⟩

end RecordFlow.Binary64
