import RecordFlow.Proofs.Number.Spelling
import RecordFlow.Step.Handler

/-!
# The readers of numbers agree

A string counts as a number if it spells a finite one, white space around it aside
(`numberOfText?_eq_some_iff`).  Three kinds of steps turn such a string into a number, and each
reads it in a way of its own: one knows other bases and takes a blank text for zero, one reads
what the text begins with, and one looks for the first numeral once the marks between groups of
digits and all white space are gone.  On a string that counts as a number all of them read that
number (`numberReaders_agree`).

What they share is the spelling.  A spelled numeral has none of the characters in it that a
reader treats in another way, and white space ends it (`Numeral.ends_of_allBlank`), so that each
of them scans the same text.

## Main definitions

* `StepKind.numberReaders` — the kinds of steps that read a number out of a string.
-/

namespace RecordFlow

open Text

variable {s t b : List Char} {x : Binary64} {c : Char}

/-! ### Strings that count as numbers -/

/-- **The texts that count as numbers** spell a finite one, white space around it aside. -/
theorem numberOfText?_eq_some_iff :
    numberOfText? s = some x ↔ Numeral.Spells (trim s) x ∧ x.isFinite = true := by
  rw [numberOfText?, Option.filter_eq_some_iff, readNumber?_eq_some_iff]

namespace Numeral

/-- White space is no part of a numeral. -/
theorem ends_of_allBlank (h : allBlank b = true) : Ends isDecimalDigit b := by
  intro d hd
  have hblank : isBlank d = true := allBlank_iff.1 h d (List.mem_of_mem_head? hd)
  exact ⟨isDecimalDigit_of_isBlank hblank, ne_of_isBlank hblank (by decide),
    ne_of_isBlank hblank (by decide), ne_of_isBlank hblank (by decide)⟩

/-- A text that spells a number is written in ASCII digits and the marks of numerals. -/
theorem Spells.digit_or_mark (h : Spells t x) (hc : c ∈ t) :
    isAsciiDigit c = true ∨ c ∈ marks := by
  obtain ⟨sp, hin, rfl, -⟩ := h
  exact hin.digit_or_mark hc

/-- No other character is in a text that spells a number. -/
theorem Spells.notMem (h : Spells t x) (hdigit : isAsciiDigit c = false) (hmark : c ∉ marks) :
    c ∉ t := by
  intro hc
  rcases h.digit_or_mark hc with hc | hc
  · rw [hdigit] at hc
    cases hc
  · exact hmark hc

theorem Spells.ne_nil (h : Spells t x) : t ≠ [] := by
  rintro rfl
  have hread : readNumber? [] = some x := readNumber?_eq_some_iff.2 h
  cases hread

theorem Spells.not_isBlank (h : Spells t x) (hc : c ∈ t) : isBlank c = false := by
  rcases h.digit_or_mark hc with hc | hc
  · exact isBlank_of_isDecimalDigit (isDecimalDigit_of_isAsciiDigit hc)
  · have hall : marks.all (isBlank · == false) = true := by decide
    exact beq_iff_eq.1 (List.all_eq_true.1 hall c hc)

/-- The letters that announce a base other than ten. -/
def baseLetters : List Char :=
  ['x', 'X', 'o', 'O', 'b', 'B']

/-- **No letter that announces a base is in a text that spells a number.** -/
theorem Spells.notMem_baseLetters (h : Spells t x) (hc : c ∈ t) : c ∉ baseLetters := by
  intro hletter
  have hall : baseLetters.all (fun d => !isAsciiDigit d && !marks.contains d) = true := by decide
  have hother := List.all_eq_true.1 hall c hletter
  simp only [Bool.and_eq_true, Bool.not_eq_true', List.contains_eq_mem, decide_eq_false_iff_not]
    at hother
  exact h.notMem hother.1 hother.2 hc

/-- A spelled numeral announces no other base. -/
theorem Spells.baseOf? (h : Spells t x) : Conversion.baseOf? t = none := by
  unfold Conversion.baseOf?
  split
  · next c rest =>
    have hc := h.notMem_baseLetters (List.mem_cons_of_mem _ List.mem_cons_self)
    simp only [baseLetters, List.mem_cons, List.not_mem_nil, or_false, not_or] at hc
    obtain ⟨hx, hX, ho, hO, hb, hB⟩ := hc
    rw [if_neg (not_or.2 ⟨hx, hX⟩), if_neg (not_or.2 ⟨ho, hO⟩), if_neg (not_or.2 ⟨hb, hB⟩)]
  · rfl

end Numeral

/-! ### The three readers -/

/-- A reader of four bases reads a spelled number as a decimal one. -/
theorem Conversion.readAnyNumber?_of_numberOfText? (h : numberOfText? s = some x) :
    readAnyNumber? s = some x := by
  obtain ⟨hspells, hfinite⟩ := numberOfText?_eq_some_iff.1 h
  have hagain : numberOfText? (trim s) = some x := by
    rw [numberOfText?_eq_some_iff, trim_trim]
    exact ⟨hspells, hfinite⟩
  unfold readAnyNumber?
  simp only [List.isEmpty_eq_false_iff.2 hspells.ne_nil, hspells.baseOf?, hagain,
    Bool.false_eq_true, if_false]

/-- A reader of beginnings reads a spelled number to its end. -/
theorem Numeric.readLeading?_of_numberOfText? (h : numberOfText? s = some x) :
    readLeading? s = some x := by
  obtain ⟨⟨sp, hin, htext, hnearest⟩, -⟩ := numberOfText?_eq_some_iff.1 h
  obtain ⟨b, hb, hstart⟩ := exists_eq_trimEnd_append (trimStart s)
  have hscan := Numeral.scan?_text_of_isAsciiDigit hin (Numeral.ends_of_allBlank hb)
  rw [← htext, trim, ← hstart] at hscan
  rw [readLeading?, hscan, Option.bind_some]
  show sp.numeral.value? = some x
  rw [Numeral.value?_numeral hin, hnearest]

/-- Whether a character stays in the plain form of a text with points and commas. -/
def Numeric.isKept (c : Char) : Bool :=
  c != ',' && !isBlank c

/-- With points and commas the plain form of a text is the text without commas and white
space. -/
theorem Numeric.plainForm_eq_filter (s : List Char) :
    plainForm ['.'] [','] s = s.filter isKept := by
  have hform : plainForm ['.'] [','] s =
      (s.flatMap fun c => if c = ',' then [] else [c]).filter (!isBlank ·) := by
    rw [← replaceAll_singleton]
    rfl
  rw [hform]
  clear hform
  induction s with
  | nil => rfl
  | cons c s ih =>
    rw [List.flatMap_cons, List.filter_append, ih, List.filter_cons]
    by_cases hc : c = ','
    · simp [hc, isKept]
    · cases hblank : isBlank c <;> simp [hc, hblank, isKept]

theorem Numeric.isKept_of_isBlank (h : isBlank c = true) : isKept c = false := by
  rw [isKept, h, Bool.not_true, Bool.and_false]

/-- Every character of a numeral stays. -/
theorem Numeric.isKept_of_digit_or_mark (h : isAsciiDigit c = true ∨ c ∈ Numeral.marks) :
    isKept c = true := by
  rcases h with h | h
  · have hcomma : c ≠ ',' := by
      rintro rfl
      exact absurd h (by decide)
    have hblank := isBlank_of_isDecimalDigit (isDecimalDigit_of_isAsciiDigit h)
    simp [isKept, hcomma, hblank]
  · have hall : Numeral.marks.all isKept = true := by decide
    exact List.all_eq_true.1 hall c h

/-- The plain form of a spelled number is its spelling. -/
theorem Numeric.plainForm_of_spells (h : Numeral.Spells (trim s) x) :
    plainForm ['.'] [','] s = trim s := by
  obtain ⟨a, b, ha, hb, hs⟩ := exists_eq_append_trim_append s
  have hgone {r : List Char} (hr : allBlank r = true) : r.filter isKept = [] := by
    rw [List.filter_eq_nil_iff]
    intro c hc
    simp [isKept_of_isBlank (allBlank_iff.1 hr c hc)]
  have hkept : (trim s).filter isKept = trim s :=
    List.filter_eq_self.2 fun c hc => isKept_of_digit_or_mark (h.digit_or_mark hc)
  calc plainForm ['.'] [','] s = s.filter isKept := plainForm_eq_filter s
    _ = (a ++ (trim s ++ b)).filter isKept := by rw [← hs]
    _ = trim s := by
        rw [List.filter_append, List.filter_append, hgone ha, hgone hb, hkept, List.nil_append,
          List.append_nil]

/-- A reader of formatted numbers reads a spelled number as it is. -/
theorem Numeric.readFormatted?_of_numberOfText? (h : numberOfText? s = some x) :
    readFormatted? ['.'] [','] s = some x := by
  obtain ⟨hspells, hfinite⟩ := numberOfText?_eq_some_iff.1 h
  rw [readFormatted?, plainForm_of_spells hspells]
  obtain ⟨sp, hin, htext, hnearest⟩ := hspells
  have hscan := Numeral.scan?_text_of_isAsciiDigit hin Numeral.ends_nil
  rw [List.append_nil, ← htext] at hscan
  rw [Numeral.find?_of_scan? hscan, Option.bind_some, Numeral.value?_numeral hin, hnearest,
    Option.filter_some, if_pos hfinite]

/-! ### The steps -/

/-- Without separators of its own a formatted number has points and commas. -/
theorem Step.parseNumber_str {o : Options} (hdecimal : o.decimalSeparator = none)
    (hthousands : o.thousandsSeparator = none) (s : String) :
    Step.parseNumber o (.str s) =
      (Numeric.readFormatted? ['.'] [','] s.toList).elim .null .ofBinary64 := by
  have hpoint : chars none "." = ['.'] := by decide
  have hcomma : chars none (if ['.'] = [','] then "." else ",") = [','] := by decide
  simp only [Step.parseNumber, hdecimal, hthousands, hpoint, hcomma]

/-- **The kinds of steps that read a number out of a string.**  Each has a reader of its own,
with its own idea of what may stand around a number. -/
def StepKind.numberReaders : List StepKind :=
  [toNumber, parseFloat, parseNumber]

/-- **The readers of numbers agree:** from a string that counts as a number each of them reads
that number, whatever surrounds it and under any options that set no separators.

One of them reads the whole string, one as much of it as is a numeral, and one what is left when
everything else is taken out; on such strings there is nothing to take out or to leave. -/
theorem numberReaders_agree {s : String} (h : (Value.str s).toNumber? = some x) :
    ∀ kind ∈ StepKind.numberReaders, ∃ handler, kind.handler? = some handler ∧
      ∀ (o : Options) (surroundings : Surroundings),
        o.decimalSeparator = none → o.thousandsSeparator = none →
          handler o surroundings (.str s) = .ofBinary64 x := by
  have hnumber : numberOfText? s.toList = some x := h
  intro kind hkind
  simp only [StepKind.numberReaders, List.mem_cons, List.not_mem_nil, or_false] at hkind
  rcases hkind with rfl | rfl | rfl
  · refine ⟨_, rfl, fun o _ _ _ => ?_⟩
    show (Conversion.readAnyNumber? s.toList).elim .null Value.ofBinary64 = .ofBinary64 x
    rw [Conversion.readAnyNumber?_of_numberOfText? hnumber, Option.elim_some]
  · refine ⟨_, rfl, fun o _ _ _ => ?_⟩
    show (Numeric.readLeading? (Value.str s).toText).elim .null Value.ofBinary64 = .ofBinary64 x
    rw [Value.toText_str, Numeric.readLeading?_of_numberOfText? hnumber, Option.elim_some]
  · refine ⟨_, rfl, fun o _ hdecimal hthousands => ?_⟩
    show Step.parseNumber o (.str s) = .ofBinary64 x
    rw [Step.parseNumber_str hdecimal hthousands,
      Numeric.readFormatted?_of_numberOfText? hnumber, Option.elim_some]

/-- A numeral with all its marks, in white space. -/
theorem numberReaders_agree_marked :
    (Value.str "\t-.5e+3 ").toNumber? = some (.ofRatio true 500 1) ∧
      ∀ kind ∈ StepKind.numberReaders, ∃ handler, kind.handler? = some handler ∧
        ∀ surroundings, handler {} surroundings (.str "\t-.5e+3 ") = .int (-500) := by
  have hnumber : (Value.str "\t-.5e+3 ").toNumber? = some (.ofRatio true 500 1) := by decide
  have hvalue : Value.ofBinary64 (.ofRatio true 500 1) = .int (-500) := by rfl
  refine ⟨hnumber, fun kind hkind => ?_⟩
  obtain ⟨handler, hhandler, hreads⟩ := numberReaders_agree hnumber kind hkind
  refine ⟨handler, hhandler, fun surroundings => ?_⟩
  rw [hreads {} surroundings rfl rfl, hvalue]

end RecordFlow
