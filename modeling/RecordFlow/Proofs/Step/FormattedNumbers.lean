import RecordFlow.Proofs.Formula.Literals
import RecordFlow.Proofs.Step.NumberReaders

/-!
# Numbers in decorated texts

A formatted number is read whatever stands around it.  Commas between the digits of a plain
numeral, and a text before or behind it that has no digit, sign or point in it, change nothing
(`Step.parseNumber_decorated`): the marks between groups and the white space go first, what is
left before the numeral is passed over, and what is left behind it cannot go on with it.  Not
even an `e` can, since no digits follow that it could be the power of.

Nor does it matter which of the two marks is the decimal point, as long as the text and the
options say the same.  With points and commas exchanged, and the comma for a decimal point, the
plain form of a text is what it was (`Numeric.plainForm_exchanged`).

## Main definitions

* `Numeric.Grouped` — a row of digits with commas between them.
* `Numeric.IsDecoration` — a text that holds nothing of a numeral.
* `Numeric.exchanged` — the other one of the point and the comma.
-/

namespace RecordFlow

open Text Numeral

namespace Numeric

variable {digits text before after s : List Char} {sp : Spelling}

/-- **A row of digits with commas between them,** any number of them in each place.  The reader
takes all commas out, and does not look whether they part the digits by threes. -/
inductive Grouped : List Char → List Char → Prop where
  /-- One digit. -/
  | last (c : Char) : Grouped [c] [c]
  /-- A digit and commas before others. -/
  | cons (c : Char) (commas : Nat) {digits text : List Char} (h : Grouped digits text) :
      Grouped (c :: digits) (c :: (List.replicate commas ',' ++ text))

/-- **A text that holds nothing of a numeral:** no digit of any script, no sign and no point.
Letters and commas are harmless, even the letter of a power of ten. -/
def IsDecoration (s : List Char) : Prop :=
  ∀ c ∈ s, isDecimalDigit c = false ∧ c ≠ '+' ∧ c ≠ '-' ∧ c ≠ '.'

instance (s : List Char) : Decidable (IsDecoration s) :=
  List.decidableBAll _ s

/-- The other one of the point and the comma. -/
def exchanged (c : Char) : Char :=
  if c = '.' then ',' else if c = ',' then '.' else c

/-! ### Plain forms -/

/-- **With points and commas exchanged, in the text and in the options, the plain form is the
same.** -/
theorem plainForm_exchanged (s : List Char) :
    plainForm [','] ['.'] (s.map exchanged) = plainForm ['.'] [','] s := by
  have hform : plainForm [','] ['.'] (s.map exchanged) =
      (((s.map exchanged).flatMap fun c => if c = '.' then [] else [c]).flatMap
        fun c => if c = ',' then ['.'] else [c]).filter (!isBlank ·) := by
    rw [← replaceAll_singleton, ← replaceAll_singleton]
    rfl
  rw [hform, plainForm_eq_filter]
  clear hform
  induction s with
  | nil => rfl
  | cons c s ih =>
    rw [List.map_cons, List.flatMap_cons, List.flatMap_append, List.filter_append, ih,
      List.filter_cons]
    by_cases hpoint : c = '.'
    · simp [exchanged, hpoint, isKept, isBlank]
    by_cases hcomma : c = ','
    · simp [exchanged, hcomma, isKept]
    · cases hblank : isBlank c <;> simp [exchanged, hpoint, hcomma, hblank, isKept]

/-- Without the commas the digits are left. -/
theorem Grouped.filter_isKept (h : Grouped digits text)
    (hdigits : ∀ c ∈ digits, isAsciiDigit c = true) : text.filter isKept = digits := by
  induction h with
  | last c =>
    have hc := isKept_of_digit_or_mark (Or.inl (hdigits c List.mem_cons_self))
    rw [List.filter_cons_of_pos hc, List.filter_nil]
  | cons c commas _ ih =>
    obtain ⟨hc, hrest⟩ := List.forall_mem_cons.1 hdigits
    have hcommas : (List.replicate commas ',').filter isKept = [] := by
      rw [List.filter_replicate]
      rfl
    rw [List.filter_cons_of_pos (isKept_of_digit_or_mark (Or.inl hc)), List.filter_append,
      hcommas, ih hrest, List.nil_append]

/-- **The plain form of a decorated numeral** has its spelling in it. -/
theorem plainForm_decorated (hin : sp.InDigits isAsciiDigit) (hgrouped : Grouped sp.whole text)
    (before after : List Char) :
    plainForm ['.'] [','] (before ++ ({ sp with whole := text }.text ++ after)) =
      before.filter isKept ++ (sp.text ++ after.filter isKept) := by
  -- of the numeral only the commas in its whole part go
  have hkept {s : List Char} (hs : s ⊆ sp.text) : s.filter isKept = s :=
    List.filter_eq_self.2 fun c hc => isKept_of_digit_or_mark (hin.digit_or_mark (hs hc))
  have hsign : signText sp.sign ⊆ sp.text := List.subset_append_left _ _
  have hrest : fractionText sp.fraction ++ powerText sp.power ⊆ sp.text :=
    fun c hc => List.mem_append_right _ (List.mem_append_right _ hc)
  rw [plainForm_eq_filter, List.filter_append, List.filter_append]
  simp only [Spelling.text]
  rw [List.filter_append, List.filter_append, hgrouped.filter_isKept hin.whole, hkept hsign,
    hkept hrest]

theorem IsDecoration.filter (h : IsDecoration s) : IsDecoration (s.filter isKept) :=
  fun c hc => h c (List.mem_of_mem_filter hc)

/-! ### Numerals that are found -/

/-- **A plain numeral is found between decorations.** -/
theorem find?_decorated (hplain : sp.IsPlain) (hin : sp.InDigits isAsciiDigit)
    (hbefore : IsDecoration before) (hafter : IsDecoration after) :
    Numeral.find? isDecimalDigit (before ++ (sp.text ++ after)) = some sp.numeral := by
  have hdigits : sp.InDigits isDecimalDigit := hin.mono fun _ => isDecimalDigit_of_isAsciiDigit
  have hpower : powerText sp.power ++ after = after := by
    rw [hplain.power, powerText, List.nil_append]
  have hscan : scan? isDecimalDigit (sp.text ++ after) = some (sp.numeral, after) := by
    refine scan?_text_of_scanPower setsOffMarks_isDecimalDigit hdigits ?_ ?_
    -- an `e` may follow, but it has no digits behind it
    · rw [hpower, hplain.power]
      exact scanPower_of_forall fun d hd => (hafter d hd).1
    · rw [hpower]
      intro d hd
      obtain ⟨hdigit, -, -, hpoint⟩ := hafter d (List.mem_of_mem_head? hd)
      exact ⟨hdigit, hpoint⟩
  rw [find?_append hbefore]
  exact find?_of_scan? hscan

/-- **A decorated numeral is read as the number nearest to it.** -/
theorem readFormatted?_decorated (hplain : sp.IsPlain) (hin : sp.InDigits isAsciiDigit)
    (hgrouped : Grouped sp.whole text) (hbefore : IsDecoration before)
    (hafter : IsDecoration after) :
    readFormatted? ['.'] [','] (before ++ ({ sp with whole := text }.text ++ after)) =
      (some sp.numeral.nearest).filter (·.isFinite) := by
  rw [readFormatted?, plainForm_decorated hin hgrouped,
    find?_decorated hplain hin hbefore.filter hafter.filter, Option.bind_some, value?_numeral hin]

/-- Digits are grouped also where there are no commas between them. -/
theorem grouped_self (h : digits ≠ []) : Grouped digits digits := by
  induction digits with
  | nil => exact absurd rfl h
  | cons c digits ih =>
    cases digits with
    | nil => exact .last c
    | cons d digits => exact .cons c 0 (ih (List.cons_ne_nil d digits))

/-- A plain numeral is one that is decorated with nothing. -/
theorem readFormatted?_plain (hplain : sp.IsPlain) (hin : sp.InDigits isAsciiDigit) :
    readFormatted? ['.'] [','] sp.text = (some sp.numeral.nearest).filter (·.isFinite) := by
  have hnothing : IsDecoration [] := fun c hc => nomatch hc
  have hread := readFormatted?_decorated hplain hin (grouped_self hplain.whole) hnothing hnothing
  rw [List.nil_append, List.append_nil] at hread
  exact hread

end Numeric

namespace Step

open Numeric

/-- What is read of a text is a value if it is finite, and null otherwise. -/
theorem parseNumber_text {s : List Char} {x : Binary64}
    (h : readFormatted? ['.'] [','] s = (some x).filter (·.isFinite)) :
    parseNumber {} (.text s) = .ofBinary64 x := by
  rw [Value.text, parseNumber_str rfl rfl, String.toList_ofList, h]
  by_cases hfinite : x.isFinite = true
  · rw [Option.filter_some, if_pos hfinite, Option.elim_some]
  · rw [Option.filter_some, if_neg hfinite, Option.elim_none, Value.ofBinary64_eq_null hfinite]

/-- **The number in a text does not depend on its decoration,** nor on which of the point and
the comma is the decimal point.

The first part is about texts that stand for a number: with commas between the digits, and with
currencies and units around it, the number is that of the plain numeral.  The second part is
about all texts, also those in which no number is found: with the two marks exchanged, in the
text and in the options, the answer is the same. -/
theorem parseNumber_decorated :
    (∀ (sp : Spelling) (text before after : List Char), sp.IsPlain → sp.InDigits isAsciiDigit →
      Grouped sp.whole text → IsDecoration before → IsDecoration after →
        parseNumber {} (.text (before ++ ({ sp with whole := text }.text ++ after))) =
            parseNumber {} (.text sp.text) ∧
          parseNumber {} (.text sp.text) = .ofBinary64 sp.numeral.nearest) ∧
      ∀ s : List Char, parseNumber { decimalSeparator := some "," } (.text (s.map exchanged)) =
        parseNumber {} (.text s) := by
  constructor
  · intro sp text before after hplain hin hgrouped hbefore hafter
    have hspelled := parseNumber_text (readFormatted?_plain hplain hin)
    have hdecorated :=
      parseNumber_text (readFormatted?_decorated hplain hin hgrouped hbefore hafter)
    exact ⟨hdecorated.trans hspelled.symm, hspelled⟩
  · intro s
    have hcomma : chars (some ",") "." = [','] := by decide
    have hpoint : chars none "." = ['.'] := by decide
    rw [Value.text, Value.text, parseNumber_str (o := {}) rfl rfl]
    simp only [parseNumber, hcomma, hpoint, if_true, String.toList_ofList, readFormatted?,
      plainForm_exchanged]

/-- An amount between the name of its currency and a mark that could be that of a power of ten,
and an amount with a comma for its decimal point. -/
theorem parseNumber_decorated_amount :
    let amount : Spelling := ⟨some true, ['1', '2', '3', '4'], some ['5', '0'], none⟩
    (amount.IsPlain ∧ amount.InDigits isAsciiDigit ∧
        Grouped amount.whole ['1', ',', '2', '3', '4']) ∧
      parseNumber {} (.text "EUR, -1,234.50 e".toList) = .ofBinary64 amount.numeral.nearest ∧
      parseNumber { decimalSeparator := some "," } (.text "1.234,5".toList) =
        parseNumber {} (.text "1,234.5".toList) := by
  intro amount
  have hplain : amount.IsPlain := ⟨by decide, by decide, by decide, rfl⟩
  have hin : amount.InDigits isAsciiDigit :=
    ⟨List.all_eq_true.1 (by decide), List.all_eq_true.1 (by decide),
      fun h => absurd h (by decide), fun _ h => nomatch h⟩
  have hgrouped : Grouped amount.whole ['1', ',', '2', '3', '4'] :=
    .cons '1' 1 (.cons '2' 0 (.cons '3' 0 (.last '4')))
  have hbefore : IsDecoration "EUR, ".toList := by decide
  have hafter : IsDecoration " e".toList := by decide
  obtain ⟨hdecorated, hspelled⟩ :=
    parseNumber_decorated.1 amount _ _ _ hplain hin hgrouped hbefore hafter
  exact ⟨⟨hplain, hin, hgrouped⟩, hdecorated.trans hspelled,
    parseNumber_decorated.2 "1,234.5".toList⟩

end Step

end RecordFlow
