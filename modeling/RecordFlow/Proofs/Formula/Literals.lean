import RecordFlow.Formula.Condition
import RecordFlow.Proofs.Calendar.Numbers
import RecordFlow.Proofs.Number.Integers
import RecordFlow.Proofs.Number.Spelling

/-!
# What literals stand for

The kind of a literal is told by its text without the white space around it.  Two keywords stand
for null and two for the truth values, plain numerals stand for numbers, and every other text
stands for itself, or for what is between its quotes (`literal_kind`).

There is one exception.  The value of a numeral is a floating-point number, and one that is not
finite has no value: a numeral beyond the limit of finite numbers stands for null
(`literal_of_overflows`), the first of them of 309 digits.

## Main definitions

* `Spelling.IsPlain` — the spellings without a plus sign and a power of ten, with digits
  wherever there may be some.
* `IsPlainNumeral` — a text is a plain numeral in ASCII digits.
* `Overflows` — it is one beyond the limit of finite numbers.
-/

namespace RecordFlow

open Text

/-! ### Plain numerals -/

namespace Numeral

open Formula (dropMinus isPlainNumeral)

variable {digit : Char → Bool} {s : List Char} {sp : Spelling}

/-- **A plain numeral:** perhaps a minus sign, digits, and perhaps a point and more digits.
Literals are numbers in this form only; with a plus sign, a power of ten or a bare point they
are texts. -/
structure Spelling.IsPlain (sp : Spelling) : Prop where
  sign : sp.sign ≠ some false
  whole : sp.whole ≠ []
  fraction : sp.fraction ≠ some []
  power : sp.power = none

/-- A plain numeral ends with the digits before its point, or behind it. -/
theorem Spelling.IsPlain.text_eq (hplain : sp.IsPlain) :
    sp.text = signText sp.sign ++ (sp.whole ++ fractionText sp.fraction) := by
  rw [Spelling.text, hplain.power, powerText, List.append_nil]

/-- A minus sign that is cut off was there. -/
theorem exists_dropMinus (s : List Char) :
    ∃ sg, sg ≠ some false ∧ s = signText sg ++ dropMinus s := by
  unfold dropMinus
  split
  · exact ⟨some true, by decide, rfl⟩
  · exact ⟨none, by decide, rfl⟩

/-- Without its minus sign a plain numeral begins with a digit. -/
theorem Spelling.IsPlain.dropMinus_text (hdigit : SetsOffMarks digit) (hplain : sp.IsPlain)
    (hin : sp.InDigits digit) : dropMinus sp.text = sp.whole ++ fractionText sp.fraction := by
  rw [hplain.text_eq]
  obtain ⟨c, rest, hcons⟩ := List.exists_cons_of_ne_nil hplain.whole
  have hsign := hplain.sign
  rcases hsg : sp.sign with _ | (_ | _)
  · have hmem : c ∈ sp.whole := by rw [hcons]; exact List.mem_cons_self
    have hminus := (ne_sign_of_digit hdigit (hin.whole c hmem)).2
    rw [hcons]
    unfold dropMinus
    split
    · next heq =>
      cases heq
      exact absurd rfl hminus
    · rfl
  · exact absurd hsg hsign
  · rfl

/-- **What is taken for a plain numeral is the spelling of one.** -/
theorem isPlainNumeral_iff (hdigit : SetsOffMarks digit) :
    isPlainNumeral digit s = true ↔
      ∃ sp : Spelling, sp.IsPlain ∧ sp.InDigits digit ∧ s = sp.text := by
  constructor
  · intro h
    obtain ⟨sg, hsg, hs⟩ := exists_dropMinus s
    obtain ⟨hunsigned, hdigits⟩ := span_digits digit (dropMinus s)
    simp only [isPlainNumeral, Bool.and_eq_true, Bool.not_eq_true', List.isEmpty_eq_false_iff] at h
    obtain ⟨hwhole, hrest⟩ := h
    split at hrest
    · next hnil =>
      refine ⟨⟨sg, (dropMinus s).takeWhile digit, none, none⟩, ⟨hsg, hwhole, by simp, rfl⟩,
        ⟨hdigits, by simp, fun hempty => absurd hempty hwhole, by simp⟩, ?_⟩
      rw [hnil] at hunsigned
      rw [Spelling.text, fractionText, powerText, List.append_nil, ← hunsigned]
      exact hs
    · next fraction hpoint =>
      simp only [Bool.and_eq_true, Bool.not_eq_true', List.isEmpty_eq_false_iff,
        List.all_eq_true] at hrest
      refine ⟨⟨sg, (dropMinus s).takeWhile digit, some fraction, none⟩,
        ⟨hsg, hwhole, by simpa using hrest.1, rfl⟩,
        ⟨hdigits, hrest.2, fun hempty => absurd hempty hwhole, by simp⟩, ?_⟩
      rw [hpoint] at hunsigned
      rw [Spelling.text, fractionText, powerText, List.append_nil, ← hunsigned]
      exact hs
    · cases hrest
  · rintro ⟨sp, hplain, hin, rfl⟩
    have hhead : ∀ d ∈ (fractionText sp.fraction).head?, digit d = false := by
      intro d hd
      cases hfraction : sp.fraction with
      | none =>
        rw [hfraction] at hd
        cases hd
      | some fraction =>
        rw [hfraction] at hd
        cases hd
        exact hdigit '.' (by decide)
    obtain ⟨htake, hdrop⟩ := span_append hin.whole hhead
    unfold isPlainNumeral
    simp only [hplain.dropMinus_text hdigit hin, htake, hdrop]
    have hne : (!sp.whole.isEmpty) = true := by
      simpa only [Bool.not_eq_true', List.isEmpty_eq_false_iff] using hplain.whole
    rw [hne, Bool.true_and]
    cases hfraction : sp.fraction with
    | none => rfl
    | some fraction =>
      have hfractionDigits := hin.fraction
      have hnonempty := hplain.fraction
      rw [hfraction] at hfractionDigits hnonempty
      simp only [fractionText, Bool.and_eq_true, Bool.not_eq_true', List.isEmpty_eq_false_iff,
        List.all_eq_true]
      exact ⟨fun hnil => hnonempty (congrArg some hnil), hfractionDigits⟩

end Numeral

namespace Formula

open Numeral

variable {s t inner : List Char} {sp : Spelling}

/-! ### Quoted texts -/

/-- **A text with quotes around it,** the same at either end, is what stands between them. -/
theorem unquote?_eq_some_iff :
    unquote? t = some inner ↔ ∃ q, isQuote q = true ∧ t = q :: (inner ++ [q]) := by
  constructor
  · intro h
    cases t with
    | nil => cases h
    | cons q rest =>
      simp only [unquote?] at h
      split at h
      · next hquoted =>
        obtain ⟨hq, hlast⟩ := hquoted
        obtain ⟨front, rfl⟩ := List.getLast?_eq_some_iff.1 hlast
        rw [List.dropLast_concat] at h
        cases h
        exact ⟨q, hq, rfl⟩
      · cases h
  · rintro ⟨q, hq, rfl⟩
    simp [unquote?, hq]

/-! ### The kinds of literals -/

/-- **A plain numeral in ASCII digits.**  Literals that have this form are numbers, unless the
number is beyond the limit of finite numbers. -/
def IsPlainNumeral (t : List Char) : Prop :=
  ∃ sp : Spelling, sp.IsPlain ∧ sp.InDigits isAsciiDigit ∧ t = sp.text

/-- **A plain numeral beyond the limit of finite numbers.**  It has the form of a number but no
value, which is why it is set apart from all other literals. -/
def Overflows (t : List Char) : Prop :=
  ∃ sp : Spelling, sp.IsPlain ∧ sp.InDigits isAsciiDigit ∧ t = sp.text ∧
    Binary64.overflowBound * 10 ^ (sp.fraction.getD []).length ≤
      digitsValue (sp.whole ++ sp.fraction.getD [])

theorem isPlainNumeral_isAsciiDigit_iff :
    isPlainNumeral isAsciiDigit t = true ↔ IsPlainNumeral t :=
  isPlainNumeral_iff setsOffMarks_isAsciiDigit

/-- A plain numeral is finite below the limit. -/
theorem isFinite_nearest_iff (hplain : sp.IsPlain) :
    sp.numeral.nearest.isFinite = true ↔
      digitsValue (sp.whole ++ sp.fraction.getD []) <
        Binary64.overflowBound * 10 ^ (sp.fraction.getD []).length := by
  have hexponent : sp.numeral.exponent = -((sp.fraction.getD []).length : ℤ) := by
    simp [Numeral.exponent, Spelling.numeral, hplain.power]
  rw [Numeral.nearest, hexponent]
  exact Binary64.isFinite_ofDecimal_iff _ _ _

/-- **Only a numeral with more than 308 digits before its point overflows.** -/
theorem Overflows.length_lt (h : Overflows t) : 308 < t.length := by
  obtain ⟨sp, hplain, hin, rfl, hlarge⟩ := h
  have hdigits : ∀ c ∈ sp.whole ++ sp.fraction.getD [], isAsciiDigit c = true := by
    intro c hc
    rcases List.mem_append.1 hc with hc | hc
    · exact hin.whole c hc
    · exact hin.fraction c hc
  have hlt := hlarge.trans_lt (Calendar.digitsValue_lt hdigits)
  rw [List.length_append, Nat.pow_add] at hlt
  have hwhole := Nat.lt_of_mul_lt_mul_right hlt
  have hbound : ∀ w < 309, 10 ^ w < Binary64.overflowBound := by decide +kernel
  have hlength : ¬ sp.whole.length < 309 := fun hle => (hbound _ hle).asymm hwhole
  rw [hplain.text_eq, List.length_append, List.length_append]
  omega

/-- A finite number has a value, which is a number. -/
theorem exists_ofBinary64_eq_num {x : Binary64} (h : x.isFinite = true) :
    ∃ n, Value.ofBinary64 x = .num n := by
  unfold Value.ofBinary64
  rw [h]
  split
  · next hfalse => cases hfalse
  split
  · exact ⟨_, rfl⟩
  · exact ⟨_, rfl⟩

/-- The keywords for null and for the truth values. -/
def keywords : List (List Char) :=
  ["null".toList, "undefined".toList, "true".toList, "false".toList]

theorem notMem_keywords_iff :
    t ∉ keywords ↔
      t ≠ "null".toList ∧ t ≠ "undefined".toList ∧ t ≠ "true".toList ∧ t ≠ "false".toList := by
  simp only [keywords, List.mem_cons, List.not_mem_nil, or_false, not_or, ne_eq]

/-- No word is a numeral. -/
theorem IsPlainNumeral.notMem_keywords (h : IsPlainNumeral t) : t ∉ keywords := by
  have hall : ∀ word ∈ keywords, isPlainNumeral isAsciiDigit word = false := by decide
  intro hmem
  have hfalse := hall t hmem
  rw [isPlainNumeral_isAsciiDigit_iff.2 h] at hfalse
  cases hfalse

/-- The keywords stand for null and for the truth values. -/
theorem literal_of_mem_keywords (h : trim s ∈ keywords) :
    literal s = .null ∧ (trim s = "null".toList ∨ trim s = "undefined".toList) ∨
      ∃ b, literal s = .bool b ∧ (trim s = "true".toList ∨ trim s = "false".toList) := by
  simp only [keywords, List.mem_cons, List.not_mem_nil, or_false] at h
  simp only [literal]
  rcases h with h | h | h | h <;> rw [h]
  · exact Or.inl ⟨rfl, Or.inl rfl⟩
  · exact Or.inl ⟨rfl, Or.inr rfl⟩
  · exact Or.inr ⟨true, rfl, Or.inl rfl⟩
  · exact Or.inr ⟨false, rfl, Or.inr rfl⟩

/-- A numeral stands for the number nearest to it. -/
theorem literal_of_plain (hplain : sp.IsPlain) (hin : sp.InDigits isAsciiDigit)
    (h : trim s = sp.text) : literal s = .ofBinary64 sp.numeral.nearest := by
  have hnumeral : IsPlainNumeral (trim s) := ⟨sp, hplain, hin, h⟩
  have hread : readNumber? (trim s) = some sp.numeral.nearest :=
    readNumber?_eq_some_iff.2 ⟨sp, hin, h, rfl⟩
  have hkeywords := hnumeral.notMem_keywords
  rw [notMem_keywords_iff] at hkeywords
  obtain ⟨hnull, hundefined, htrue, hfalse⟩ := hkeywords
  simp only [literal]
  rw [if_neg (not_or.2 ⟨hnull, hundefined⟩), if_neg htrue, if_neg hfalse,
    if_pos (isPlainNumeral_isAsciiDigit_iff.2 hnumeral), hread]
  rfl

/-- What is neither a word nor a numeral stands for itself, without its quotes. -/
theorem literal_of_text (hword : trim s ∉ keywords) (hnumeral : ¬ IsPlainNumeral (trim s)) :
    literal s = .text ((unquote? (trim s)).getD (trim s)) := by
  rw [notMem_keywords_iff] at hword
  obtain ⟨hnull, hundefined, htrue, hfalse⟩ := hword
  simp only [literal]
  rw [if_neg (not_or.2 ⟨hnull, hundefined⟩), if_neg htrue, if_neg hfalse,
    if_neg (mt isPlainNumeral_isAsciiDigit_iff.1 hnumeral)]

/-- **A numeral beyond the limit of finite numbers stands for null.** -/
theorem literal_of_overflows (h : Overflows (trim s)) : literal s = .null := by
  obtain ⟨sp, hplain, hin, htext, hlarge⟩ := h
  rw [literal_of_plain hplain hin htext]
  refine Value.ofBinary64_eq_null fun hfinite => ?_
  exact absurd ((isFinite_nearest_iff hplain).1 hfinite) (not_lt.2 hlarge)

/-- Any other numeral stands for a number. -/
theorem exists_literal_eq_num (h : IsPlainNumeral (trim s)) (hfinite : ¬ Overflows (trim s)) :
    ∃ n, literal s = .num n := by
  obtain ⟨sp, hplain, hin, htext⟩ := h
  rw [literal_of_plain hplain hin htext]
  refine exists_ofBinary64_eq_num ((isFinite_nearest_iff hplain).2 (not_le.1 fun hlarge => ?_))
  exact hfinite ⟨sp, hplain, hin, htext, hlarge⟩

/-- What stands between the quotes of a text, or the text. -/
theorem text_of_literal (hword : trim s ∉ keywords) (hnumeral : ¬ IsPlainNumeral (trim s)) :
    (∀ q inner, isQuote q = true → trim s = q :: (inner ++ [q]) → literal s = .text inner) ∧
      ((∀ q inner, isQuote q = true → trim s ≠ q :: (inner ++ [q])) →
        literal s = .text (trim s)) := by
  rw [literal_of_text hword hnumeral]
  constructor
  · intro q inner hq htext
    rw [unquote?_eq_some_iff.2 ⟨q, hq, htext⟩, Option.getD_some]
  · intro hquotes
    have hnone : unquote? (trim s) = none := by
      rw [Option.eq_none_iff_forall_ne_some]
      intro inner hinner
      obtain ⟨q, hq, htext⟩ := unquote?_eq_some_iff.1 hinner
      exact hquotes q inner hq htext
    rw [hnone, Option.getD_none]

/-- **The kind of a literal follows its text,** unless that is a numeral beyond the limit of
finite numbers, which stands for null.

Of any other literal it can be seen whether it is null, a truth value, a number or a text, and
only the two keywords are null; so a comparison with a number is never one with null by
accident. -/
theorem literal_kind (s : List Char) :
    (¬ Overflows (trim s) →
      (literal s = .null ↔ trim s = "null".toList ∨ trim s = "undefined".toList) ∧
      ((∃ b, literal s = .bool b) ↔ trim s = "true".toList ∨ trim s = "false".toList) ∧
      ((∃ n, literal s = .num n) ↔ IsPlainNumeral (trim s)) ∧
      (trim s ∉ keywords → ¬ IsPlainNumeral (trim s) →
        (∀ q inner, isQuote q = true → trim s = q :: (inner ++ [q]) → literal s = .text inner) ∧
        ((∀ q inner, isQuote q = true → trim s ≠ q :: (inner ++ [q])) →
          literal s = .text (trim s))) ∧
      (IsPlainNumeral (trim s) → Comparison.equal.holds .null (literal s) = false)) ∧
    (Overflows (trim s) → literal s = .null) := by
  refine ⟨fun hfinite => ?_, literal_of_overflows⟩
  by_cases hword : trim s ∈ keywords
  · have hnumeral : ¬ IsPlainNumeral (trim s) := fun h => h.notMem_keywords hword
    rcases literal_of_mem_keywords hword with ⟨hl, h⟩ | ⟨b, hl, h⟩
    · have hne : ¬ (trim s = "true".toList ∨ trim s = "false".toList) := by
        rcases h with h | h <;> rw [h] <;> decide
      simp only [hl, h, hne, hnumeral, hword, reduceCtorEq, exists_false, not_true_eq_false,
        false_implies, and_self]
    · have hne : ¬ (trim s = "null".toList ∨ trim s = "undefined".toList) := by
        rcases h with h | h <;> rw [h] <;> decide
      simp only [hl, h, hne, hnumeral, hword, reduceCtorEq, exists_false, Value.bool.injEq,
        exists_eq', not_true_eq_false, false_implies, and_self]
  have hne := notMem_keywords_iff.1 hword
  by_cases hnumeral : IsPlainNumeral (trim s)
  · obtain ⟨n, hl⟩ := exists_literal_eq_num hnumeral hfinite
    simp only [hl, hne, hnumeral, reduceCtorEq, exists_false, or_self, Value.num.injEq, exists_eq',
      not_true_eq_false, false_implies, implies_true, true_and]
    exact fun _ => rfl
  · have hl := literal_of_text hword hnumeral
    have htext := text_of_literal hword hnumeral
    refine ⟨?_, ?_, ?_, fun _ _ => htext, fun h => absurd h hnumeral⟩ <;>
      simp only [hl, Value.text, hne, hnumeral, reduceCtorEq, exists_false, or_self]

/-- A price is a number, and not null. -/
theorem literal_kind_price :
    (∃ n, literal " -12.50".toList = .num n) ∧
      Comparison.equal.holds .null (literal " -12.50".toList) = false := by
  have hnumeral : IsPlainNumeral (trim " -12.50".toList) :=
    isPlainNumeral_isAsciiDigit_iff.1 (by decide)
  have hfinite : ¬ Overflows (trim " -12.50".toList) :=
    fun h => absurd h.length_lt (by decide)
  obtain ⟨-, -, hnumber, -, hnull⟩ := (literal_kind " -12.50".toList).1 hfinite
  exact ⟨hnumber.2 hnumeral, hnull hnumeral⟩

/-- A row of 309 nines. -/
def nines : Spelling :=
  ⟨none, List.replicate 309 '9', none, none⟩

theorem isPlain_nines : nines.IsPlain :=
  ⟨by decide, by decide, by decide, rfl⟩

theorem inDigits_nines : nines.InDigits isAsciiDigit where
  whole c hc := by
    rw [List.eq_of_mem_replicate hc]
    decide
  fraction _ hc := nomatch hc
  ne_nil h := nomatch h
  power _ hp := nomatch hp

/-- **A row of 309 nines overflows:** it is a numeral, and equals null. -/
theorem literal_kind_nines :
    IsPlainNumeral (trim nines.text) ∧
      Comparison.equal.holds .null (literal nines.text) = true := by
  have htrim : trim nines.text = nines.text := by decide +kernel
  have hoverflows : Overflows (trim nines.text) :=
    ⟨nines, isPlain_nines, inDigits_nines, htrim, by decide +kernel⟩
  refine ⟨⟨nines, isPlain_nines, inDigits_nines, htrim⟩, ?_⟩
  rw [literal_of_overflows hoverflows]
  rfl

end Formula

end RecordFlow
