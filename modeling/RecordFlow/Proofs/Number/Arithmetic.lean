import RecordFlow.Proofs.Number.ExactValue

/-!
# Exact values of results

Each operation is the exact one, followed by one rounding: the result is what the sum, the
difference, the product or the quotient of the exact values is rounded to (`isRounded_add`,
`isRounded_sub`, `isRounded_mul`, `isRounded_div`), and the floor is the exact one
(`floor_spec`).  Only finite numbers have finite sums, products and floors.

What is rounded is not far away (`RoundsTo.abs_sub_le`), and what has 53 bits stays where it is
(`RoundsTo.eq_of_significand`, and `Rounds.eq_of_significand` for numbers of any sign).

## Main definitions

* `IsRounded` — a number is what an exact value is rounded to.
-/

namespace RecordFlow

namespace IsNearest

variable {x : ℚ} {j k n : ℕ}

/-- One natural number is nearest. -/
theorem unique (hj : IsNearest x j) (hk : IsNearest x k) : j = k :=
  le_antisymm (hj.mono hk le_rfl) (hk.mono hj le_rfl)

/-- What is less than a half away is nearest. -/
theorem of_lt (h : |x - n| < 1 / 2) : IsNearest x n := by
  obtain ⟨hbelow, habove⟩ := abs_lt.1 h
  refine ⟨by linarith, by linarith, ?_⟩
  rintro (htie | htie) <;> linarith

/-- An even number that is at most a half away is nearest. -/
theorem of_even (hn : Even n) (h : |x - n| ≤ 1 / 2) : IsNearest x n := by
  obtain ⟨hbelow, habove⟩ := abs_le.1 h
  exact ⟨by linarith, by linarith, fun _ => hn⟩

end IsNearest

namespace Binary64

variable {x y : Binary64} {q r : ℚ} {m n d : ℕ} {e : ℤ}

/-! ### What is rounded to what -/

/-- A significand of 53 bits has places for all of its digits. -/
theorem unitExponent_le (hm : 0 < m) (hbits : m < 2 ^ 53) (he : -1074 ≤ e) :
    unitExponent (m * 2 ^ e) ≤ e := by
  have hpos : (0 : ℚ) < m * 2 ^ e := by
    have : (0 : ℚ) < m := by exact_mod_cast hm
    positivity
  have hlt : (m : ℚ) * 2 ^ e < 2 ^ (53 + e) := by
    rw [← two_pow_mul_two_zpow 53 (show ((53 : ℕ) : ℤ) + e = 53 + e by norm_num)]
    have : (m : ℚ) < 2 ^ 53 := by exact_mod_cast hbits
    have := two_zpow_pos e
    gcongr
  have hlog : Int.log 2 ((m : ℚ) * 2 ^ e) < 53 + e :=
    (Int.lt_zpow_iff_log_lt (b := 2) (by norm_num) hpos).1 (by exact_mod_cast hlt)
  unfold unitExponent
  omega

/-- So it is a natural number of units of its last place. -/
theorem exists_eq_natCast_mul_unit (hm : 0 < m) (hbits : m < 2 ^ 53) (he : -1074 ≤ e) :
    ∃ k : ℕ, (m : ℚ) * 2 ^ e = k * 2 ^ unitExponent (m * 2 ^ e) := by
  obtain ⟨k, hk⟩ := Int.eq_ofNat_of_zero_le (sub_nonneg.2 (unitExponent_le hm hbits he))
  refine ⟨m * 2 ^ k, ?_⟩
  rw [Nat.cast_mul, Nat.cast_pow, Nat.cast_ofNat, mul_assoc,
    two_pow_mul_two_zpow k (show (k : ℤ) + unitExponent (m * 2 ^ e) = e by omega)]

namespace RoundsTo

/-- What is nearest in units of the last place is what a number is rounded to. -/
theorem eq_of_isNearest {k : ℕ} (h : RoundsTo q r) (hk : IsNearest (q / 2 ^ unitExponent q) k) :
    r = k * 2 ^ unitExponent q := by
  obtain ⟨m, hm, rfl⟩ := h
  rw [hm.unique hk]

/-- **Rounding moves a number by half a place at most.** -/
theorem abs_sub_le (h : RoundsTo q r) : |r - q| ≤ 2 ^ unitExponent q / 2 := by
  obtain ⟨m, hm, rfl⟩ := h
  have hpos := two_zpow_pos (unitExponent q)
  have hdist : |(m : ℚ) - q / 2 ^ unitExponent q| ≤ 1 / 2 :=
    abs_le.2 ⟨by linarith [hm.below], by linarith [hm.above]⟩
  calc |(m : ℚ) * 2 ^ unitExponent q - q|
      = |(m : ℚ) - q / 2 ^ unitExponent q| * 2 ^ unitExponent q := by
        rw [← abs_of_pos hpos, ← abs_mul, abs_of_pos hpos, sub_mul,
          div_mul_cancel₀ _ hpos.ne']
    _ ≤ 1 / 2 * 2 ^ unitExponent q := by gcongr
    _ = 2 ^ unitExponent q / 2 := by ring

/-- **What has 53 bits stays where it is.** -/
theorem eq_of_significand (h : RoundsTo (m * 2 ^ e) r) (hm : 0 < m) (hbits : m < 2 ^ 53)
    (he : -1074 ≤ e) : r = m * 2 ^ e := by
  obtain ⟨k, hk⟩ := exists_eq_natCast_mul_unit hm hbits he
  exact h.eq_of_natCast hk

end RoundsTo

/-- Numbers of 53 bits are their own rounding. -/
theorem roundsTo_significand (hm : 0 < m) (hbits : m < 2 ^ 53) (he : -1074 ≤ e) :
    RoundsTo (m * 2 ^ e) (m * 2 ^ e) := by
  obtain ⟨k, hk⟩ := exists_eq_natCast_mul_unit hm hbits he
  refine ⟨k, ?_, hk⟩
  rw [(div_eq_iff (two_zpow_pos _).ne').2 hk]
  exact .natCast k

theorem roundsTo_two_zpow (he : -1074 ≤ e) : RoundsTo (2 ^ e) (2 ^ e) := by
  simpa using roundsTo_significand (m := 1) one_pos (by norm_num) he

namespace Rounds

/-- A bound that is not rounded is kept. -/
theorem abs_le_of_abs_le {c : ℚ} (h : Rounds q r) (hc : RoundsTo c c) (hpos : 0 < c)
    (hq : |q| ≤ c) : |r| ≤ c := by
  have hbound : Rounds c c := Or.inl ⟨hpos, hc⟩
  obtain ⟨hlow, hhigh⟩ := abs_le.1 hq
  exact abs_le.2 ⟨hbound.neg.mono h hlow, h.mono hbound hhigh⟩

/-- **What has 53 bits is not rounded,** whatever its sign. -/
theorem eq_of_significand {k : ℤ} (h : Rounds (k * 2 ^ e) r) (hbits : k.natAbs < 2 ^ 53)
    (he : -1074 ≤ e) : r = k * 2 ^ e :=
  h.eq_of_natAbs (two_zpow_pos e) fun hpos _ hy => hy.eq_of_significand hpos hbits he

end Rounds

/-! ### Results of operations -/

/-- **A number is what an exact value is rounded to:** it is finite if the value is below the
limit of finite numbers, and then it is the rounded value.  All four operations are of this
kind, so that what is known of rounding serves for all of them. -/
structure IsRounded (x : Binary64) (q : ℚ) : Prop where
  /-- When the number is finite. -/
  isFinite_iff : x.isFinite = true ↔ |q| < overflowBound
  /-- Which number it is then. -/
  rounds : x.isFinite = true → Rounds q x.toRat

/-- An integral value up to `2 ^ 53` is the result. -/
theorem IsRounded.eq_intCast {k : ℤ} (h : IsRounded x q) (hq : q = k) (hk : k.natAbs ≤ 2 ^ 53) :
    x.isFinite = true ∧ x.toRat = k := by
  subst hq
  have hfinite : x.isFinite = true := by
    rw [h.isFinite_iff, ← Int.cast_abs, Int.abs_eq_natAbs]
    exact_mod_cast hk.trans_lt two_pow_lt_overflowBound
  exact ⟨hfinite, (h.rounds hfinite).eq_intCast hk⟩

/-- A value whose magnitude is below the limit is rounded to a finite number. -/
theorem IsRounded.of_abs_le (h : IsRounded x q) (hq : |q| ≤ 2 ^ 53) :
    x.isFinite = true ∧ Rounds q x.toRat := by
  have hfinite : x.isFinite = true :=
    h.isFinite_iff.2 (hq.trans_lt (by exact_mod_cast two_pow_lt_overflowBound))
  exact ⟨hfinite, h.rounds hfinite⟩

theorem abs_signed (s : Bool) (q : ℚ) : |signed s q| = |q| := by
  cases s <;> simp [signed]

theorem signed_bne (s t : Bool) (q r : ℚ) : signed (s != t) (q * r) = signed s q * signed t r := by
  cases s <;> cases t <;> simp [signed]

/-- A quotient with a sign is rounded. -/
theorem isRounded_ofRatio (s : Bool) (hd : 0 < d) (n : ℕ) :
    IsRounded (ofRatio s n d) (signed s (n / d)) := by
  have hdq : (0 : ℚ) < d := by exact_mod_cast hd
  have hquotient : (0 : ℚ) ≤ n / d := by positivity
  refine ⟨?_, fun hfinite => ?_⟩
  · rw [isFinite_ofRatio_iff s hd, abs_signed, abs_of_nonneg hquotient, div_lt_iff₀ hdq]
    exact_mod_cast Iff.rfl
  · rcases Nat.eq_zero_or_pos n with rfl | hn
    · exact Or.inr (Or.inl ⟨by cases s <;> simp [signed], by simp [ofRatio, zero, toRat, signed]⟩)
    · obtain ⟨y, hy, -, hvalue⟩ := exists_roundsTo_ofRatio s hn hd
      have hpos : (0 : ℚ) < n / d := div_pos (by exact_mod_cast hn) hdq
      rw [hvalue hfinite]
      cases s with
      | false => exact Or.inl ⟨hpos, hy⟩
      | true => exact (show Rounds (n / d) y from Or.inl ⟨hpos, hy⟩).neg

/-- A multiple of a power of two is rounded. -/
theorem isRounded_ofScaled (s : Bool) (m : ℕ) (e : ℤ) :
    IsRounded (ofScaled s m e) (signed s (m * 2 ^ e)) := by
  unfold ofScaled
  split
  · next he =>
    have hvalue : (m : ℚ) * 2 ^ e = (m * 2 ^ e.toNat : ℕ) / (1 : ℕ) := by
      rw [cast_mul_two_pow, Int.toNat_of_nonneg he, Nat.cast_one, div_one]
    rw [hvalue]
    exact isRounded_ofRatio s Nat.one_pos _
  · next he =>
    have hvalue : (m : ℚ) * 2 ^ e = m / (2 ^ (-e).toNat : ℕ) := by
      rw [Nat.cast_pow, Nat.cast_ofNat, ← zpow_natCast, Int.toNat_of_nonneg (by omega), zpow_neg,
        div_inv_eq_mul]
    rw [hvalue]
    exact isRounded_ofRatio s (Nat.two_pow_pos _) m

/-- A product is finite only if its factors are. -/
theorem isFinite_of_mul (h : (x.mul y).isFinite = true) :
    x.isFinite = true ∧ y.isFinite = true := by
  cases x with
  | nan => cases h
  | infinite s =>
    cases y with
    | nan => cases h
    | infinite t => cases h
    | finite t n f hn =>
      simp only [mul] at h
      split at h <;> cases h
  | finite s m e hm =>
    cases y with
    | nan => cases h
    | infinite t =>
      simp only [mul] at h
      split at h <;> cases h
    | finite t n f hn => exact ⟨rfl, rfl⟩

/-- A sum is finite only if its terms are. -/
theorem isFinite_of_add (h : (x.add y).isFinite = true) :
    x.isFinite = true ∧ y.isFinite = true := by
  cases x with
  | nan => cases h
  | infinite s =>
    cases y with
    | nan => cases h
    | infinite t =>
      simp only [add] at h
      split at h <;> cases h
    | finite t n f hn => cases h
  | finite s m e hm =>
    cases y with
    | nan => cases h
    | infinite t => cases h
    | finite t n f hn => exact ⟨rfl, rfl⟩

/-- A quotient is finite only if what is divided is, and not divided by zero. -/
theorem isFinite_of_div (h : (x.div y).isFinite = true) :
    x.isFinite = true ∧ (y.isFinite = true → y.toRat ≠ 0) := by
  cases x with
  | nan => cases h
  | infinite s =>
    cases y with
    | nan => cases h
    | infinite t => cases h
    | finite t n f hn => cases h
  | finite s m e hm =>
    refine ⟨rfl, fun hy hzero => ?_⟩
    cases y with
    | nan => cases hy
    | infinite t => cases hy
    | finite t n f hn =>
      have hn0 : n = 0 := by
        have hpos := two_zpow_pos f
        cases t <;> simpa [toRat, signed, hpos.ne'] using hzero
      simp only [div, hn0, if_true] at h
      split at h <;> cases h

theorem toRat_of_not_isFinite (hx : ¬x.isFinite = true) : x.toRat = 0 := by
  cases x with
  | nan => rfl
  | infinite s => rfl
  | finite s m e hm => exact absurd rfl hx

/-- A quotient by what is not finite is zero, or no number. -/
theorem toRat_div_of_not_isFinite (hy : ¬y.isFinite = true) : (x.div y).toRat = 0 := by
  cases y with
  | nan => cases x <;> rfl
  | infinite t =>
    cases x with
    | nan => rfl
    | infinite s => rfl
    | finite s m e hm => simp [div, zero, toRat, signed]
  | finite t n f hn => exact absurd rfl hy

/-- **A product is the exact one, rounded.** -/
theorem isRounded_mul (hx : x.isFinite = true) (hy : y.isFinite = true) :
    IsRounded (x.mul y) (x.toRat * y.toRat) := by
  cases x with
  | nan => cases hx
  | infinite s => cases hx
  | finite s m e hm =>
    cases y with
    | nan => cases hy
    | infinite t => cases hy
    | finite t n f hn =>
      have hvalue : signed s (m * 2 ^ e) * signed t (n * 2 ^ f) =
          signed (s != t) ((m * n : ℕ) * 2 ^ (e + f)) := by
        rw [← signed_bne, zpow_add₀ two_ne_zero, Nat.cast_mul]
        congr 1
        ring
      simp only [mul, toRat, hvalue]
      exact isRounded_ofScaled _ _ _

/-- **A sum is the exact one, rounded.** -/
theorem isRounded_add (hx : x.isFinite = true) (hy : y.isFinite = true) :
    IsRounded (x.add y) (x.toRat + y.toRat) := by
  cases x with
  | nan => cases hx
  | infinite s => cases hx
  | finite s m e hm =>
    cases y with
    | nan => cases hy
    | infinite t => cases hy
    | finite t n f hn =>
      have hsum := exactSum_mul_two_zpow s m e t n f
      have hexponent : (exactSum s m e t n f).2 = min e f := rfl
      simp only [add, toRat, ← hsum, hexponent]
      generalize (exactSum s m e t n f).1 = total
      split
      · next hzero =>
        rw [hzero, Int.cast_zero, zero_mul]
        refine ⟨iff_of_true rfl ?_, fun _ => Or.inr (Or.inl ⟨rfl, ?_⟩)⟩
        · rw [abs_zero]
          exact_mod_cast overflowBound_pos
        · simp [zero, toRat, signed]
      · have hvalue : (total : ℚ) * 2 ^ min e f =
            signed (decide (total < 0)) (total.natAbs * 2 ^ min e f) := by
          rw [← signed_mul, ← cast_signed]
          congr 2
          rcases lt_or_ge total 0 with hneg | hpos
          · rw [decide_eq_true hneg, if_pos rfl]
            omega
          · rw [decide_eq_false (not_lt.2 hpos)]
            simp only [Bool.false_eq_true, if_false]
            omega
        rw [hvalue]
        exact isRounded_ofScaled _ _ _

theorem isFinite_neg (x : Binary64) : x.neg.isFinite = x.isFinite := by
  cases x <;> rfl

theorem toRat_neg (x : Binary64) : x.neg.toRat = -x.toRat := by
  cases x with
  | nan => exact neg_zero.symm
  | infinite s => exact neg_zero.symm
  | finite s m e h => exact signed_not s _

/-- **A difference is the exact one, rounded.** -/
theorem isRounded_sub (hx : x.isFinite = true) (hy : y.isFinite = true) :
    IsRounded (x.sub y) (x.toRat - y.toRat) := by
  rw [sub_eq_add_neg, ← toRat_neg]
  exact isRounded_add hx ((isFinite_neg y).trans hy)

/-- Only a zero has the value zero. -/
theorem toRat_ne_zero (hx : x.isFinite = true) (hzero : x.isZero = false) : x.toRat ≠ 0 := by
  cases x with
  | nan => cases hx
  | infinite s => cases hx
  | finite s m e h =>
    have hm : (m : ℚ) ≠ 0 := by exact_mod_cast beq_eq_false_iff_ne.1 hzero
    have hvalue : (m : ℚ) * 2 ^ e ≠ 0 := mul_ne_zero hm (zpow_ne_zero e two_ne_zero)
    cases s with
    | false => exact hvalue
    | true => exact neg_ne_zero.2 hvalue

/-- **A quotient is the exact one, rounded.** -/
theorem isRounded_div (hx : x.isFinite = true) (hy : y.isFinite = true) (hne : y.toRat ≠ 0) :
    IsRounded (x.div y) (x.toRat / y.toRat) := by
  cases x with
  | nan => cases hx
  | infinite s => cases hx
  | finite s m e hm =>
    cases y with
    | nan => cases hy
    | infinite t => cases hy
    | finite t n f hn =>
      have hn0 : n ≠ 0 := by
        rintro rfl
        refine hne ?_
        cases t <;> simp [toRat, signed]
      obtain ⟨hden, hquotient⟩ := scaleDown_div (Nat.pos_of_ne_zero hn0) m (f - e)
      have hvalue : signed s (m * 2 ^ e) / signed t (n * 2 ^ f) =
          signed (s != t) ((scaleDown m n (f - e)).1 / (scaleDown m n (f - e)).2) := by
        have hratio : (m : ℚ) / n / 2 ^ (f - e) = m * 2 ^ e / (n * 2 ^ f) := by
          rw [zpow_sub₀ two_ne_zero, div_div_eq_mul_div, div_mul_eq_mul_div, div_div]
        rw [hquotient, hratio]
        cases s <;> cases t <;> simp [signed, neg_div, div_neg]
      simp only [div, toRat, hvalue, if_neg hn0]
      exact isRounded_ofRatio _ hden _

/-! ### Floors -/

section Parts

variable {s : Bool} {hm : IsCanonical m e}

theorem toRat_finite_of_nonneg (he : 0 ≤ e) :
    (finite s m e hm).toRat = signed s (m * 2 ^ e.toNat : ℕ) := by
  rw [cast_mul_two_pow, Int.toNat_of_nonneg he]
  rfl

theorem toRat_finite_of_neg (he : ¬0 ≤ e) :
    (finite s m e hm).toRat = signed s (m / (2 ^ (-e).toNat : ℕ)) := by
  rw [Nat.cast_pow, Nat.cast_ofNat, ← zpow_natCast, Int.toNat_of_nonneg (by omega), zpow_neg,
    div_inv_eq_mul]
  rfl

end Parts

theorem isFinite_of_floor (h : x.floor.isFinite = true) : x.isFinite = true := by
  cases x with
  | nan => cases h
  | infinite s => cases h
  | finite s m e hm => rfl

/-- An integer up to `2 ^ 53` is made from its sign and its magnitude without being rounded. -/
theorem ofRatio_one_spec (s : Bool) (hn : n ≤ 2 ^ 53) :
    (ofRatio s n 1).isFinite = true ∧
      (ofRatio s n 1).toRat = ((if s then -(n : ℤ) else (n : ℤ) : ℤ) : ℚ) := by
  refine (isRounded_ofRatio s Nat.one_pos n).eq_intCast ?_ (by cases s <;> simpa using hn)
  rw [Nat.cast_one, div_one, cast_signed]

/-- The integer part of a magnitude that has a fraction, with its sign, is the floor. -/
theorem ediv_eq_floor (s : Bool) (m : ℕ) {d : ℕ} (hd : 0 < d) :
    (if s then -(m : ℤ) else (m : ℤ)) / (d : ℤ) =
      if s then -((if s && m % d != 0 then m / d + 1 else m / d : ℕ) : ℤ)
      else ((if s && m % d != 0 then m / d + 1 else m / d : ℕ) : ℤ) := by
  have hmod := Nat.mod_lt m hd
  have hdiv : (d : ℤ) * (m / d : ℕ) + (m % d : ℕ) = m := by exact_mod_cast Nat.div_add_mod m d
  cases s with
  | false => simp
  | true =>
    simp only [if_true, Bool.true_and, bne_iff_ne, ne_eq]
    by_cases hcut : m % d = 0
    · rw [if_neg (not_not.2 hcut)]
      rw [hcut] at hdiv
      refine Int.ediv_eq_of_eq_mul_right (by omega) ?_
      rw [← hdiv]
      push_cast
      ring
    · rw [if_pos hcut]
      refine ((Int.ediv_emod_unique (r := (d : ℤ) - (m % d : ℕ)) (by omega)).2 ⟨?_, ?_, ?_⟩).1
      · rw [← hdiv]
        push_cast
        ring
      · omega
      · omega

/-- **The floor of a finite number is the exact one.** -/
theorem floor_spec (hx : x.isFinite = true) :
    x.floor.isFinite = true ∧ x.floor.toRat = ⌊x.toRat⌋ := by
  cases x with
  | nan => cases hx
  | infinite s => cases hx
  | finite s m e hm =>
    simp only [floor]
    split
    · next he =>
      refine ⟨rfl, ?_⟩
      rw [toRat_finite_of_nonneg he, ← cast_signed, Int.floor_intCast]
    · next he =>
      have hd : 0 < 2 ^ (-e).toNat := Nat.two_pow_pos _
      have hvalue : (finite s m e hm).toRat =
          ((if s then -(m : ℤ) else (m : ℤ) : ℤ) : ℚ) / (2 ^ (-e).toNat : ℕ) := by
        rw [toRat_finite_of_neg he, cast_signed, div_eq_mul_inv, div_eq_mul_inv, signed_mul]
      have hbits : m / 2 ^ (-e).toNat + 1 ≤ 2 ^ 53 :=
        (Nat.div_le_self m _).trans_lt hm.1
      rw [hvalue, Rat.floor_intCast_div_natCast, ediv_eq_floor s m hd]
      simp only [integerPart, if_neg he]
      refine ofRatio_one_spec s ?_
      split <;> omega

end Binary64

end RecordFlow
