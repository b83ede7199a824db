import RecordFlow.Proofs.Formula.Literals
import RecordFlow.Proofs.Step.NumberReaders

/-!
# Integers in texts

The text of an integer spells a numeral (`Numeral.text_ofInt`), and the number nearest to that
numeral is the one nearest to the integer (`Numeral.nearest_ofInt`).  Up to the magnitude at
which floating-point numbers stop being exact that is the integer itself, so that whatever reads
numbers reads the integer (`readers_intText`): a literal, and the steps that read numbers in any
base, at the beginning of a text, or among other text.

## Main definitions

* `Numeral.Spelling.ofInt` — how an integer is spelled.
-/

namespace RecordFlow

open Text

namespace Numeral

variable {n : ℤ}

/-- **How an integer is spelled:** with a minus sign if it is negative, and in digits. -/
def Spelling.ofInt (n : ℤ) : Spelling where
  sign := if n < 0 then some true else none
  whole := Nat.toDigits 10 n.natAbs
  fraction := none
  power := none

theorem text_ofInt (n : ℤ) : (Spelling.ofInt n).text = intText n := by
  simp only [Spelling.text, Spelling.ofInt, fractionText, powerText, List.append_nil, intText]
  split <;> rfl

theorem isPlain_ofInt (n : ℤ) : (Spelling.ofInt n).IsPlain where
  sign := by
    simp only [Spelling.ofInt]
    split <;> decide
  whole := Nat.toDigits_ne_nil
  fraction h := nomatch h
  power := rfl

theorem inDigits_ofInt (n : ℤ) : (Spelling.ofInt n).InDigits isAsciiDigit where
  whole _ hc := isAsciiDigit_of_mem_toDigits hc
  fraction _ hc := nomatch hc
  ne_nil h := absurd h Nat.toDigits_ne_nil
  power _ hp := nomatch hp

/-- The digits of a number spell it. -/
theorem digitsValue_toDigits (m : ℕ) : digitsValue (Nat.toDigits 10 m) = m := by
  rw [Calendar.digitsValue_eq_ofDigitChars, Nat.ofDigitChars_ten_toDigits]

theorem numeral_ofInt (n : ℤ) :
    (Spelling.ofInt n).numeral = ⟨decide (n < 0), Nat.toDigits 10 n.natAbs, [], none⟩ := by
  by_cases hneg : n < 0
  · simp [Spelling.numeral, Spelling.ofInt, hneg]
  · simp [Spelling.numeral, Spelling.ofInt, hneg]

/-- **The number nearest to the numeral of an integer** is the one nearest to the integer. -/
theorem nearest_ofInt (hn : n.natAbs ≤ maxExactInteger) :
    (Spelling.ofInt n).numeral.nearest = Binary64.ofInt n := by
  -- numerals of hundreds of digits would be settled by their length alone
  have hcount : digitCount n.natAbs ≤ 16 :=
    (Binary64.digitCount_le_iff (by decide)).2 (hn.trans_lt (by decide))
  rw [numeral_ofInt, nearest]
  show Binary64.ofDecimal _ (digitsValue (Nat.toDigits 10 n.natAbs ++ [])) 0 = _
  rw [List.append_nil, digitsValue_toDigits, Binary64.ofDecimal, Binary64.ofInt]
  split
  · next hzero => rw [hzero, Binary64.ofRatio, if_pos rfl]
  · rw [if_neg (by omega), if_neg (by omega), if_pos le_rfl]
    simp

/-- **An integer is spelled by its text,** as the number nearest to it. -/
theorem spells_intText (hn : n.natAbs ≤ maxExactInteger) :
    Spells (intText n) (Binary64.ofInt n) :=
  ⟨.ofInt n, inDigits_ofInt n, (text_ofInt n).symm, nearest_ofInt hn⟩

theorem trim_intText (hn : n.natAbs ≤ maxExactInteger) : trim (intText n) = intText n :=
  trim_of_forall fun _ hc => (spells_intText hn).not_isBlank hc

end Numeral

/-! ### Reading the texts of integers -/

section

open Numeral

variable {n : ℤ}

/-- The value of the number nearest to an integer is the integer. -/
theorem Value.ofBinary64_ofInt (hn : n.natAbs ≤ maxExactInteger) :
    Value.ofBinary64 (.ofInt n) = .int n :=
  (Value.ofBinary64_eq_int_iff hn).2 (Binary64.ofInt_spec (hn.trans (by decide)))

/-- The text of an integer counts as the number. -/
theorem numberOfText?_intText (hn : n.natAbs ≤ maxExactInteger) :
    numberOfText? (intText n) = some (.ofInt n) := by
  rw [numberOfText?_eq_some_iff, trim_intText hn]
  exact ⟨spells_intText hn, (Binary64.ofInt_spec (hn.trans (by decide))).1⟩

/-- An integer is a literal for itself. -/
theorem Formula.literal_intText (hn : n.natAbs ≤ maxExactInteger) :
    literal (intText n) = .int n := by
  have htext : trim (intText n) = (Spelling.ofInt n).text := by
    rw [trim_intText hn, text_ofInt]
  rw [literal_of_plain (isPlain_ofInt n) (inDigits_ofInt n) htext, nearest_ofInt hn,
    Value.ofBinary64_ofInt hn]

/-- A reader of leading integers reads a sign and digits to their end. -/
theorem Numeric.readLeadingInteger?_text {sp : Spelling} (hin : sp.InDigits isAsciiDigit)
    (hfraction : sp.fraction = none) (hpower : sp.power = none) :
    readLeadingInteger? sp.text = some sp.numeral.nearest := by
  have hne : sp.whole ≠ [] := fun hnil => hin.ne_nil hnil (by rw [hfraction]; rfl)
  have htext : sp.text = signText sp.sign ++ sp.whole := by
    rw [Spelling.text, hfraction, hpower, fractionText, powerText, List.append_nil, List.append_nil]
  have hblank : ∀ c ∈ sp.text, isBlank c = false :=
    fun _ hc => Spells.not_isBlank ⟨sp, hin, rfl, rfl⟩ hc
  have hdigits := hin.mono fun _ => isDecimalDigit_of_isAsciiDigit
  have hsign : sign sp.text = (sp.sign == some true, sp.whole) := by
    have hhead := ne_sign_of_mem_head? setsOffMarks_isDecimalDigit hdigits.whole hne (r := [])
    rw [List.append_nil] at hhead
    rw [htext]
    exact sign_signText hhead
  have htake : sp.whole.takeWhile isDecimalDigit = sp.whole :=
    List.takeWhile_eq_self_iff.2 hdigits.whole
  have hnumeral : sp.numeral = ⟨sp.sign == some true, sp.whole, [], none⟩ := by
    rw [Spelling.numeral, hfraction, hpower, Option.getD_none, Option.map_none]
  rw [readLeadingInteger?, trimStart_of_forall hblank, hsign]
  simp only [htake, List.isEmpty_eq_false_iff.2 hne, Bool.false_eq_true, if_false]
  rw [← hnumeral, value?_numeral hin]

theorem Numeric.readLeadingInteger?_intText (hn : n.natAbs ≤ maxExactInteger) :
    readLeadingInteger? (intText n) = some (.ofInt n) := by
  rw [← text_ofInt, readLeadingInteger?_text (inDigits_ofInt n) rfl rfl, nearest_ofInt hn]

/-- **Integers survive a trip through text:** the text of one that floating-point numbers hold
exactly is read back as this integer, whatever reads it.

There are five readers, each with a grammar of its own, and the text is the same for all of
them.  Beyond `2 ^ 53` an integer need not be read back, since the readers go by way of
floating-point numbers. -/
theorem readers_intText (hn : n.natAbs ≤ maxExactInteger) :
    Formula.literal (Value.int n).toText = .int n ∧
      Step.toNumber (.text (Value.int n).toText) = .int n ∧
      Step.parseInt (.text (Value.int n).toText) = .int n ∧
      Step.parseFloat (.text (Value.int n).toText) = .int n ∧
      Step.parseNumber {} (.text (Value.int n).toText) = .int n := by
  have htext : (Value.int n).toText = intText n := rfl
  have hnumber := numberOfText?_intText hn
  have hvalue := Value.ofBinary64_ofInt hn
  rw [htext]
  refine ⟨Formula.literal_intText hn, ?_, ?_, ?_, ?_⟩
  · show (Conversion.readAnyNumber? (String.ofList (intText n)).toList).elim .null
      Value.ofBinary64 = .int n
    rw [String.toList_ofList, Conversion.readAnyNumber?_of_numberOfText? hnumber,
      Option.elim_some, hvalue]
  · show (Numeric.readLeadingInteger? (Value.text (intText n)).toText).elim .null
      Value.ofBinary64 = .int n
    rw [Value.toText_text, Numeric.readLeadingInteger?_intText hn, Option.elim_some, hvalue]
  · show (Numeric.readLeading? (Value.text (intText n)).toText).elim .null
      Value.ofBinary64 = .int n
    rw [Value.toText_text, Numeric.readLeading?_of_numberOfText? hnumber, Option.elim_some, hvalue]
  · rw [Value.text, Step.parseNumber_str rfl rfl, String.toList_ofList,
      Numeric.readFormatted?_of_numberOfText? hnumber, Option.elim_some, hvalue]

/-- The least of these integers. -/
theorem readers_intText_least :
    (-9007199254740991 : ℤ).natAbs ≤ maxExactInteger ∧
      Formula.literal (Value.int (-9007199254740991)).toText = .int (-9007199254740991) ∧
      Step.parseInt (.text (Value.int (-9007199254740991)).toText) = .int (-9007199254740991) := by
  have hn : (-9007199254740991 : ℤ).natAbs ≤ maxExactInteger := by decide
  obtain ⟨hliteral, -, hint, -, -⟩ := readers_intText hn
  exact ⟨hn, hliteral, hint⟩

end

end RecordFlow
