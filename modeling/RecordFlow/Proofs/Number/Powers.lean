import RecordFlow.Proofs.Number.Arithmetic

/-!
# Powers of ten

A power is made by repeated squaring, and every product on the way is rounded.  What holds of
the factors with their exponents, and of a product with the sum of the exponents, holds of the
power (`powAcc_of_mul`).

* Up to `10 ^ 22` no product is rounded, so that **the power is exact** (`powTen_spec`): the
  part that is a power of five has 53 bits.
* **The power is finite up to `10 ^ 308`** (`isFinite_powTen_iff`).  Near the limit this is
  computed; far beyond it, the power is not less than one of eight (`le_powTen`).

## Main definitions

* `powTen` — a power of ten, as it is made.
-/

namespace RecordFlow.Binary64

variable {base acc x y : Binary64} {i j k n : ℕ}

/-! ### Repeated squaring -/

/-- **What products keep holds of a power:** the exponent of the accumulated product grows by
that of the base for each of the factors that are left. -/
theorem powAcc_of_mul {P : ℕ → Binary64 → Prop}
    (hmul : ∀ {i j x y}, P i x → P j y → P (i + j) (x.mul y)) (hbase : P i base) (hacc : P j acc) :
    P (j + i * n) (powAcc base acc n) := by
  induction n using Nat.strongRecOn generalizing i j base acc with
  | ind n ih =>
    rw [powAcc]
    have hdigit : P (j + i * (n % 2)) (if n % 2 = 1 then acc.mul base else acc) := by
      rcases Nat.mod_two_eq_zero_or_one n with heven | hodd
      · rw [heven, if_neg (by decide), Nat.mul_zero, Nat.add_zero]
        exact hacc
      · rw [hodd, if_pos rfl, Nat.mul_one]
        exact hmul hacc hbase
    have hn := Nat.div_add_mod n 2
    split
    · next hzero =>
      have hexponent : j + i * (n % 2) = j + i * n := by
        conv_rhs => rw [← hn, hzero, Nat.mul_zero, Nat.zero_add]
      rwa [hexponent] at hdigit
    · next hne =>
      have hsquare := ih (n / 2) (by omega) (hmul hbase hbase) hdigit
      have hexponent : j + i * (n % 2) + (i + i) * (n / 2) = j + i * n := by
        conv_rhs => rw [← hn]
        ring
      rwa [hexponent] at hsquare

/-! ### Powers of ten -/

/-- A power of ten, by repeated squaring with a rounding after each product. -/
def powTen (n : ℕ) : Binary64 :=
  powAcc (.ofNat 10) (.ofNat 1) n

/-- What products keep holds of a power of ten if it holds of one and of ten. -/
theorem powTen_of_mul {P : ℕ → Binary64 → Prop}
    (hmul : ∀ {i j x y}, P i x → P j y → P (i + j) (x.mul y)) (hone : P 0 (.ofNat 1))
    (hten : P 1 (.ofNat 10)) (n : ℕ) : P n (powTen n) := by
  have h := powAcc_of_mul (n := n) hmul hten hone
  rwa [Nat.one_mul, Nat.zero_add] at h

theorem ofNat_spec (hn : n ≤ 2 ^ 53) : (ofNat n).isFinite = true ∧ (ofNat n).toRat = n := by
  simpa [ofNat] using ofRatio_one_spec false hn

/-- **A power of ten is exact** up to the twenty-second. -/
theorem powTen_spec (hn : n ≤ 22) : (powTen n).isFinite = true ∧ (powTen n).toRat = 10 ^ n := by
  refine powTen_of_mul (P := fun n x => n ≤ 22 → x.isFinite = true ∧ x.toRat = 10 ^ n)
    ?_ (fun _ => ?_) (fun _ => ?_) n hn
  · intro i j x y hx hy hij
    obtain ⟨hxfinite, hxvalue⟩ := hx (by omega)
    obtain ⟨hyfinite, hyvalue⟩ := hy (by omega)
    have hproduct := isRounded_mul hxfinite hyfinite
    rw [hxvalue, hyvalue, ← pow_add] at hproduct
    have hfinite : (x.mul y).isFinite = true := by
      have hbound : 10 ^ 22 < overflowBound := by decide +kernel
      rw [hproduct.isFinite_iff, abs_of_pos (by positivity)]
      calc (10 : ℚ) ^ (i + j) ≤ 10 ^ 22 := pow_le_pow_right₀ (by norm_num) hij
        _ < overflowBound := by exact_mod_cast hbound
    refine ⟨hfinite, ?_⟩
    -- the odd part of the power has 53 bits
    have hsignificand : (10 : ℚ) ^ (i + j) = (5 ^ (i + j) : ℕ) * 2 ^ ((i + j : ℕ) : ℤ) := by
      rw [Nat.cast_pow, zpow_natCast, ← mul_pow]
      norm_num
    have hrounds := (hproduct.rounds hfinite).of_pos (by positivity)
    rw [hsignificand] at hrounds ⊢
    refine hrounds.eq_of_significand (Nat.pow_pos (by decide)) ?_ (by omega)
    calc 5 ^ (i + j) ≤ 5 ^ 22 := Nat.pow_le_pow_right (by decide) hij
      _ < 2 ^ 53 := by norm_num
  · simpa using ofNat_spec (show 1 ≤ 2 ^ 53 by norm_num)
  · simpa using ofNat_spec (show 10 ≤ 2 ^ 53 by norm_num)

theorem eight_pow (n : ℕ) : (8 : ℚ) ^ n = 2 ^ ((3 * n : ℕ) : ℤ) := by
  rw [zpow_natCast, pow_mul]
  norm_num

/-- A power of ten is not less than the power of eight, which is never rounded. -/
theorem le_powTen (hn : (powTen n).isFinite = true) : (8 : ℚ) ^ n ≤ (powTen n).toRat := by
  refine powTen_of_mul (P := fun n x => x.isFinite = true → (8 : ℚ) ^ n ≤ x.toRat)
    ?_ (fun _ => ?_) (fun _ => ?_) n hn
  · intro i j x y hx hy hfinite
    obtain ⟨hxfinite, hyfinite⟩ := isFinite_of_mul hfinite
    have hle : (8 : ℚ) ^ (i + j) ≤ x.toRat * y.toRat := by
      rw [pow_add]
      exact mul_le_mul (hx hxfinite) (hy hyfinite) (by positivity)
        ((by positivity : (0 : ℚ) ≤ 8 ^ i).trans (hx hxfinite))
    have hproduct := ((isRounded_mul hxfinite hyfinite).rounds hfinite).of_pos
      ((by positivity : (0 : ℚ) < 8 ^ (i + j)).trans_le hle)
    rw [eight_pow] at hle ⊢
    exact (roundsTo_two_zpow (by omega)).mono (two_zpow_pos _) hproduct hle
  · rw [(ofNat_spec (by norm_num)).2]
    norm_num
  · rw [(ofNat_spec (by norm_num)).2]
    norm_num

theorem abs_toRat_lt (hx : x.isFinite = true) : |x.toRat| < 2 ^ (1024 : ℤ) := by
  cases x with
  | nan => cases hx
  | infinite s => cases hx
  | finite s m e hm =>
    have hbits : (m : ℚ) < 2 ^ 53 := by exact_mod_cast hm.1
    have hpos := two_zpow_pos e
    rw [toRat, abs_signed, abs_of_nonneg (by positivity)]
    calc (m : ℚ) * 2 ^ e < 2 ^ 53 * 2 ^ e := by gcongr
      _ ≤ 2 ^ 53 * 2 ^ (971 : ℤ) := by gcongr; exacts [by norm_num, hm.2.2.1]
      _ = 2 ^ (1024 : ℤ) := two_pow_mul_two_zpow 53 (by norm_num)

/-- The powers of ten around the limit of finite numbers. -/
theorem isFinite_powTen_of_lt : ∀ n < 342, (powTen n).isFinite = decide (n ≤ 308) := by
  decide +kernel

/-- **A power of ten is finite** up to the three hundred and eighth. -/
theorem isFinite_powTen_iff : (powTen n).isFinite = true ↔ n ≤ 308 := by
  rcases lt_or_ge n 342 with hlt | hge
  · rw [isFinite_powTen_of_lt n hlt, decide_eq_true_iff]
  · refine iff_of_false (fun hfinite => ?_) (by omega)
    have habs := abs_toRat_lt hfinite
    have hle : (2 : ℚ) ^ (1024 : ℤ) ≤ (powTen n).toRat := by
      calc (2 : ℚ) ^ (1024 : ℤ) ≤ 2 ^ ((3 * n : ℕ) : ℤ) :=
            zpow_le_zpow_right₀ (by norm_num) (by omega)
        _ = 8 ^ n := (eight_pow n).symm
        _ ≤ (powTen n).toRat := le_powTen hfinite
    exact absurd (hle.trans (le_abs_self _)) (not_le.2 habs)

theorem powTen_nonneg (n : ℕ) : 0 ≤ (powTen n).toRat := by
  by_cases hfinite : (powTen n).isFinite = true
  · exact (by positivity : (0 : ℚ) ≤ 8 ^ n).trans (le_powTen hfinite)
  · exact (toRat_of_not_isFinite hfinite).ge

/-- From the seventeenth on a power of ten has 57 bits. -/
theorem two_pow_le_powTen (hlow : 17 ≤ n) (hhigh : n ≤ 308) : 2 ^ 56 ≤ (powTen n).toRat := by
  rcases le_or_gt n 22 with hexact | hrounded
  · rw [(powTen_spec hexact).2]
    calc (2 : ℚ) ^ 56 ≤ 10 ^ 17 := by norm_num
      _ ≤ 10 ^ n := pow_le_pow_right₀ (by norm_num) hlow
  · calc (2 : ℚ) ^ 56 ≤ 8 ^ 22 := by norm_num
      _ ≤ 8 ^ n := pow_le_pow_right₀ (by norm_num) hrounded.le
      _ ≤ (powTen n).toRat := le_powTen (isFinite_powTen_iff.2 hhigh)

/-! ### Reciprocals -/

/-- A reciprocal has the sign of the number, if it has a value. -/
theorem reciprocal_nonneg (hx : 0 ≤ x.toRat) : 0 ≤ ((ofNat 1).div x).toRat := by
  by_cases hfinite : ((ofNat 1).div x).isFinite = true
  · by_cases hxfinite : x.isFinite = true
    · have hone := ofNat_spec (show 1 ≤ 2 ^ 53 by norm_num)
      have hne := (isFinite_of_div hfinite).2 hxfinite
      have hpos : 0 < (ofNat 1).toRat / x.toRat := by
        rw [hone.2]
        exact div_pos (by norm_num) (hx.lt_of_ne' hne)
      exact (((isRounded_div hone.1 hxfinite hne).rounds hfinite).of_pos hpos).nonneg
    · exact (toRat_div_of_not_isFinite hxfinite).ge
  · exact (toRat_of_not_isFinite hfinite).ge

/-- The reciprocal of a large power of ten is small, and not zero. -/
theorem reciprocal_powTen (hlow : 17 ≤ n) (hhigh : n ≤ 308) :
    ((ofNat 1).div (powTen n)).isFinite = true ∧ 0 < ((ofNat 1).div (powTen n)).toRat ∧
      ((ofNat 1).div (powTen n)).toRat ≤ 2 ^ (-56 : ℤ) := by
  have hone := ofNat_spec (show 1 ≤ 2 ^ 53 by norm_num)
  have hfinite := isFinite_powTen_iff.2 hhigh
  have hlarge := two_pow_le_powTen hlow hhigh
  have hpos : 0 < (powTen n).toRat := (by norm_num : (0 : ℚ) < 2 ^ 56).trans_le hlarge
  have hlimit := (le_abs_self _).trans_lt (abs_toRat_lt hfinite)
  have hquotient := isRounded_div hone.1 hfinite hpos.ne'
  rw [hone.2, Nat.cast_one] at hquotient
  have hsmall : 1 / (powTen n).toRat ≤ 2 ^ (-56 : ℤ) := by
    rw [zpow_neg, one_div]
    exact inv_anti₀ (by positivity) (by exact_mod_cast hlarge)
  have hleast : 2 ^ (-1024 : ℤ) ≤ 1 / (powTen n).toRat := by
    rw [zpow_neg, one_div]
    exact inv_anti₀ hpos hlimit.le
  have hquotientPos := one_div_pos.2 hpos
  obtain ⟨hresult, hrounds⟩ := hquotient.of_abs_le (by
    rw [abs_of_pos hquotientPos]
    exact hsmall.trans (by norm_num))
  have hto := hrounds.of_pos hquotientPos
  exact ⟨hresult,
    (two_zpow_pos _).trans_le ((roundsTo_two_zpow (by norm_num)).mono (two_zpow_pos _) hto hleast),
    hto.mono hquotientPos (roundsTo_two_zpow (by norm_num)) hsmall⟩

end RecordFlow.Binary64
