import Mathlib.Data.List.Induction
import RecordFlow.Calendar.Reading
import RecordFlow.Proofs.Text.Scanning

/-!
# Numbers in dates

A number of a date is written with a fixed number of digits, zeros in front of it if need be,
and a scanner that asks for no more of them takes just these (`scanNumber?_padded`).  So a
number is read as it was written wherever it stands, and whatever follows it.

Conversely, what a scanner takes is a row of digits and no more of them than it may take
(`exists_of_scanNumber?`), which bounds the number (`lt_of_scanNumber?`).
-/

namespace RecordFlow.Calendar

open Text

variable {width n least most : Nat} {c : Char} {s rest : List Char}

/-! ### Rows of digits -/

theorem digitsValue_eq_ofDigitChars (s : List Char) : digitsValue s = Nat.ofDigitChars 10 s 0 := rfl

/-- A row of digits spells a number of no more digits. -/
theorem digitsValue_lt (h : ∀ c ∈ s, isAsciiDigit c = true) : digitsValue s < 10 ^ s.length := by
  induction s using List.reverseRecOn with
  | nil => decide
  | append_singleton front last ih =>
    have hfront := ih fun c hc => h c (List.mem_append_left _ hc)
    have hlast := h last (List.mem_append_right _ (List.mem_singleton_self last))
    have hvalue : digitsValue (front ++ [last]) = 10 * digitsValue front + (last.toNat - 48) := by
      rw [digitsValue, List.foldl_append]
      rfl
    rw [isAsciiDigit, Bool.and_eq_true, decide_eq_true_eq, decide_eq_true_eq] at hlast
    rw [hvalue, List.length_append, List.length_singleton, Nat.pow_succ]
    omega

/-! ### Numbers as they are written -/

theorem isAsciiDigit_of_mem_padded (h : c ∈ padded width n) : isAsciiDigit c = true := by
  rw [padded, List.mem_append] at h
  rcases h with h | h
  · rw [List.eq_of_mem_replicate h]
    decide
  · exact isAsciiDigit_of_mem_toDigits h

theorem padded_ne_nil (width n : Nat) : padded width n ≠ [] := by
  rw [padded]
  exact List.append_ne_nil_of_right_ne_nil _ Nat.toDigits_ne_nil

/-- What is written of a number begins with a digit. -/
theorem exists_padded_eq_cons (width n : Nat) :
    ∃ c digits, padded width n = c :: digits ∧ isAsciiDigit c = true := by
  obtain ⟨c, digits, hcons⟩ := List.exists_cons_of_ne_nil (padded_ne_nil width n)
  have hmem : c ∈ padded width n := hcons ▸ List.mem_cons_self
  exact ⟨c, digits, hcons, isAsciiDigit_of_mem_padded hmem⟩

theorem digitsValue_padded (width n : Nat) : digitsValue (padded width n) = n := by
  rw [digitsValue_eq_ofDigitChars, padded, Nat.ofDigitChars_append, Nat.ofDigitChars_replicate_zero,
    Nat.mul_zero, Nat.ofDigitChars_ten_toDigits]

/-- A number that fits has as many digits as it is written with. -/
theorem length_padded (hwidth : 0 < width) (h : n < 10 ^ width) :
    (padded width n).length = width := by
  have hle : (Nat.toDigits 10 n).length ≤ width :=
    (Nat.length_toDigits_le_iff (by decide) hwidth).2 h
  rw [padded, List.length_append, List.length_replicate]
  omega

/-! ### What is written is scanned -/

/-- **A number is scanned as it was written,** if no other digit can be taken for one of its
own. -/
theorem scanNumber?_padded (hwidth : 0 < width) (hn : n < 10 ^ width) (hleast : least ≤ width)
    (hmost : width ≤ most)
    (hrest : width < most → ∀ d ∈ rest.head?, isAsciiDigit d = false) :
    scanNumber? least most (padded width n ++ rest) = some (n, rest) := by
  have hlength := length_padded hwidth hn
  have hdigits : ((padded width n ++ rest).take most).takeWhile isAsciiDigit = padded width n := by
    rw [List.take_append, hlength, List.take_of_length_le (by omega)]
    refine (span_append (fun c => isAsciiDigit_of_mem_padded) ?_).1
    intro d hd
    rw [List.head?_take] at hd
    split at hd
    · cases hd
    · exact hrest (by omega) d hd
  have hne : (padded width n).isEmpty = false := List.isEmpty_eq_false_iff.2 (padded_ne_nil width n)
  rw [scanNumber?]
  simp only [hdigits, hlength, hne, Bool.false_eq_true, or_false]
  rw [if_neg (by omega), digitsValue_padded, List.drop_left' hlength]

/-! ### What is scanned -/

/-- **What a scanner takes** is a row of digits of a length in its bounds. -/
theorem exists_of_scanNumber? (h : scanNumber? least most s = some (n, rest)) :
    ∃ digits, s = digits ++ rest ∧ (∀ c ∈ digits, isAsciiDigit c = true) ∧
      0 < digits.length ∧ least ≤ digits.length ∧ digits.length ≤ most ∧
      digitsValue digits = n := by
  rw [scanNumber?] at h
  split at h
  · cases h
  · next hlength =>
    rw [not_or, not_lt, List.isEmpty_iff] at hlength
    obtain ⟨hn, hrest⟩ := Prod.mk.inj (Option.some.inj h)
    obtain ⟨digits, hdigits⟩ : ∃ digits, digits = (s.take most).takeWhile isAsciiDigit := ⟨_, rfl⟩
    rw [← hdigits] at hlength hn hrest
    have htake : digits <+: s := by
      rw [hdigits]
      exact (List.takeWhile_prefix _).trans (List.take_prefix _ _)
    obtain ⟨after, rfl⟩ := htake
    rw [List.drop_left] at hrest
    refine ⟨digits, by rw [hrest], ?_, List.length_pos_iff.2 hlength.2, hlength.1, ?_, hn⟩
    · intro c hc
      rw [hdigits] at hc
      exact List.mem_takeWhile_imp hc
    · rw [hdigits]
      exact (List.takeWhile_prefix _).length_le.trans (List.length_take_le _ _)

theorem lt_of_scanNumber? (h : scanNumber? least most s = some (n, rest)) : n < 10 ^ most := by
  obtain ⟨digits, -, hdigits, -, -, hlength, rfl⟩ := exists_of_scanNumber? h
  exact (digitsValue_lt hdigits).trans_le (Nat.pow_le_pow_right (by decide) hlength)

end RecordFlow.Calendar
