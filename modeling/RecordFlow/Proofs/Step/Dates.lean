import RecordFlow.Proofs.Calendar.FieldPatterns
import RecordFlow.Proofs.Calendar.StandardForm
import RecordFlow.Step.Dates

/-!
# Dates written and read

A number of milliseconds in the years from zero to 9999 is written as a text that stands for the
same instant and for no other (`parseDate_millis`).

Whatever a date is read from, what is written of it is read again, if the date lies in these
years (`parseDate_parseDate`): the second reading finds the instant to the millisecond, and
writes the same text.  A date in another year is written with a sign before the year, and this
text is no date any more.

Both rest on the same two facts: the instants that values stand for are regular
(`isRegular_of_instantOf?`), and the standard form of a regular instant is read back.

What is written by a pattern of separated fields is read by the same pattern as what the fields
tell of the date (`parseDate_formatDate`).  There is one exception: an hour without a minute is
lost, and the date is read as midnight.

Any other pattern writes dates too.  Its format has no directives but the listed ones
(`formatDate_directives`), so whoever can write these writes every date by it; and a text in
quotes is written as it is.
-/

namespace RecordFlow

open Calendar

variable {pattern : Option String} {s : List Char} {v : Value} {t : Instant} {n : Int}

/-- The instants that values stand for are regular. -/
theorem isRegular_of_instantOf? (h : instantOf? pattern v = some t) : t.IsRegular := by
  cases v with
  | num x =>
    replace h : Instant.ofMillis? x.millis = some t := h
    rw [Instant.ofMillis?_eq, Option.ite_none_right_eq_some] at h
    rw [← Option.some.inj h.2]
    exact Instant.isRegular_atMillis _
  | str s =>
    cases pattern with
    | none => exact isRegular_of_readAny? t h
    | some p => exact isRegular_of_readByItems? t h
  | null | bool _ | arr _ | obj _ => cases h

/-- What the standard form is read as has no white space to lose. -/
theorem instantOf?_isoText (t : Instant) :
    instantOf? none (.text (isoText t)) = readAny? (isoText t) := by
  rw [Value.text, instantOf?, String.toList_ofList, trim_isoText]

/-- **The standard form of a regular instant stands for it,** to the millisecond. -/
theorem instantOf?_isoText_of_hasPlainYear (h : t.IsRegular) (hyear : t.HasPlainYear) :
    instantOf? none (.text (isoText t)) = some t.wholeMillis := by
  rw [instantOf?_isoText, readAny?_isoText h hyear]

/-- The integers of years of four digits have sixty-four bits. -/
theorem Number.millis_int (hyear : (Instant.atMillis n).HasPlainYear) :
    (Number.int n).millis = n := by
  have hrange := Instant.hasPlainYear_atMillis_iff.1 hyear
  rw [Number.millis, saturate]
  omega

namespace Step

variable {o : Options}

theorem parseDate_of_instantOf? (h : instantOf? o.inputFormat v = some t) :
    parseDate o v = .text (isoText t) := by
  rw [parseDate, h, Option.elim_some]

/-- Without a pattern to write by, a date is written as it is read. -/
theorem formatDate_of_instantOf? (hformat : o.format.or o.outputFormat = none)
    (h : instantOf? o.inputFormat v = some t) : formatDate o v = .text (isoText t) := by
  simp only [formatDate, h, hformat]

/-- With a pattern it is written by the items of the pattern. -/
theorem formatDate_of_pattern (ho : o.format.or o.outputFormat = some (String.ofList s))
    (h : instantOf? o.inputFormat v = some t) :
    formatDate o v = .text (render (patternItems s) t) := by
  simp only [formatDate, h, ho, String.toList_ofList]

/-- **Numbers of milliseconds are written faithfully.**  For every number of milliseconds in
years of four digits there is a text that stands for the same instant.  It is what reading and
writing the number gives, and what reading and writing the text gives, and no other such number
has the same text. -/
theorem parseDate_millis (hyear : (Instant.atMillis n).HasPlainYear) :
    ∃ t s, Instant.ofMillis? n = some t ∧ instantOf? none (.str s) = some t ∧
      (Number.int n).millis = n ∧
      (∀ (x : Number) (o : Options), x.millis = n → parseDate o (.num x) = .str s ∧
        (o.format.or o.outputFormat = none → formatDate o (.num x) = .str s)) ∧
      (∀ o : Options, o.inputFormat = none → parseDate o (.str s) = .str s ∧
        (o.format.or o.outputFormat = none → formatDate o (.str s) = .str s)) ∧
      ∀ k : Int, (Instant.atMillis k).HasPlainYear →
        ∀ o, parseDate o (.int k) = .str s → k = n := by
  have htext : ∀ k : Int, (Instant.atMillis k).HasPlainYear →
      instantOf? none (.text (isoText (.atMillis k))) = some (.atMillis k) := by
    intro k hk
    rw [instantOf?_isoText_of_hasPlainYear (Instant.isRegular_atMillis k) hk,
      Instant.wholeMillis_atMillis]
  have hnumber : ∀ (k : Int) (x : Number) (p : Option String), (Instant.atMillis k).HasPlainYear →
      x.millis = k → instantOf? p (.num x) = some (.atMillis k) := by
    rintro _ x p hk rfl
    exact hk.ofMillis?
  refine ⟨.atMillis n, String.ofList (isoText (.atMillis n)), hyear.ofMillis?, htext n hyear,
    Number.millis_int hyear, ?_, ?_, ?_⟩
  · intro x o hx
    have h := hnumber n x o.inputFormat hyear hx
    exact ⟨parseDate_of_instantOf? h, fun hformat => formatDate_of_instantOf? hformat h⟩
  · intro o hinput
    have h := hinput ▸ htext n hyear
    exact ⟨parseDate_of_instantOf? h, fun hformat => formatDate_of_instantOf? hformat h⟩
  · intro k hk o hsame
    -- Two numbers of the same text are read back from it as the same instant.
    have h := hnumber k (.int k) o.inputFormat hk (Number.millis_int hk)
    have heq : Value.text (isoText (.atMillis k)) = .text (isoText (.atMillis n)) :=
      (parseDate_of_instantOf? h).symm.trans hsame
    have hread := htext k hk
    rw [heq, htext n hyear] at hread
    exact (Instant.atMillis_injective (Option.some.inj hread)).symm

/-- The last millisecond before 1970. -/
theorem parseDate_millis_minusOne :
    (Instant.atMillis (-1)).HasPlainYear ∧
      instantOf? none (.str "1969-12-31T23:59:59.999Z") = Instant.ofMillis? (-1) ∧
      ∀ k : Int, (Instant.atMillis k).HasPlainYear →
        parseDate {} (.int k) = .str "1969-12-31T23:59:59.999Z" → k = -1 := by
  have hyear : (Instant.atMillis (-1)).HasPlainYear := by decide
  obtain ⟨t, s, hmillis, hread, hint, hnumber, -, hunique⟩ := parseDate_millis hyear
  have hparse : parseDate {} (.int (-1)) = .str "1969-12-31T23:59:59.999Z" := rfl
  obtain rfl : s = "1969-12-31T23:59:59.999Z" :=
    Value.str.inj ((hnumber (.int (-1)) {} hint).1.symm.trans hparse)
  exact ⟨hyear, hread.trans hmillis.symm, fun k hk => hunique k hk {}⟩

/-- **Dates that are read and written are read again, in years of four digits only.**  What is
read as a date without a pattern is written as a text.  If the date lies in years of four
digits, this text is read as the same date, to the millisecond, and written as it is; if not, it
is no date. -/
theorem parseDate_parseDate (hinput : o.inputFormat = none) {s : String}
    (hs : parseDate o v = .str s) :
    ∃ t, instantOf? none v = some t ∧
      (t.HasPlainYear →
        instantOf? none (.str s) = some t.wholeMillis ∧ parseDate o (.str s) = .str s) ∧
      (¬ t.HasPlainYear → parseDate o (.str s) = .null) := by
  cases h : instantOf? none v with
  | none =>
    rw [parseDate, hinput, h] at hs
    cases hs
  | some t =>
    have htext : Value.text (isoText t) = .str s :=
      (parseDate_of_instantOf? (hinput ▸ h)).symm.trans hs
    refine ⟨t, rfl, fun hyear => ?_, fun hyear => ?_⟩
    · have hagain := instantOf?_isoText_of_hasPlainYear (isRegular_of_instantOf? h) hyear
      rw [← htext]
      refine ⟨hagain, ?_⟩
      rw [parseDate_of_instantOf? (hinput ▸ hagain), isoText_wholeMillis]
    · have hagain : instantOf? none (.text (isoText t)) = none := by
        rw [instantOf?_isoText, readAny?_isoText_sign hyear]
      rw [← htext, parseDate, hinput, hagain, Option.elim_none]

/-- A leap second, seen from an hour east, and its fraction beyond the millisecond. -/
theorem parseDate_parseDate_leapSecond :
    parseDate {} (.str "2017-01-01T00:59:60.9999+01:00") = .str "2016-12-31T23:59:60.999Z" ∧
      instantOf? none (.str "2016-12-31T23:59:60.999Z") = some ⟨1483228799, 1999000000⟩ ∧
      parseDate {} (.str "2016-12-31T23:59:60.999Z") = .str "2016-12-31T23:59:60.999Z" := by
  have hs : parseDate {} (.str "2017-01-01T00:59:60.9999+01:00") =
    .str "2016-12-31T23:59:60.999Z" := rfl
  have hread : instantOf? none (.str "2017-01-01T00:59:60.9999+01:00") =
    some ⟨1483228799, 1999900000⟩ := by decide +kernel
  obtain ⟨t, ht, hplain, -⟩ := parseDate_parseDate rfl hs
  obtain rfl : ⟨1483228799, 1999900000⟩ = t := Option.some.inj (hread.symm.trans ht)
  exact ⟨hs, hplain (by decide)⟩

/-- The first instant of the year ten thousand is written as a text that is no date. -/
theorem exists_parseDate_eq_null :
    ∃ (v : Value) (s : String), parseDate {} v = .str s ∧ parseDate {} (.str s) = .null :=
  ⟨.int 253402300800000, "+10000-01-01T00:00:00.000Z", rfl, rfl⟩

/-! ### Patterns -/

/-- What a row of fields writes of a number of milliseconds is its text. -/
theorem formatDate_pattern {p : FieldPattern} (hyear : (Instant.atMillis n).HasPlainYear)
    (ho : o.format = some (String.ofList p.pattern)) :
    formatDate o (.int n) = .text (p.text (Instant.atMillis n).moment) := by
  have h : instantOf? o.inputFormat (.int n) = some (.atMillis n) :=
    (congrArg Instant.ofMillis? (Number.millis_int hyear)).trans hyear.ofMillis?
  rw [formatDate_of_pattern (by rw [ho, Option.some_or]) h, p.patternItems_pattern, p.render_items]

/-- What a row of fields reads is what its items read. -/
theorem parseDate_pattern {p : FieldPattern} {m : Moment} (hm : m.IsProper)
    (ho : o.inputFormat = some (String.ofList p.pattern))
    (hread : readByItems? p.items (p.text m) = some t) :
    parseDate o (.text (p.text m)) = .text (isoText t) := by
  refine parseDate_of_instantOf? ?_
  rw [ho, Value.text, instantOf?, String.toList_ofList, String.toList_ofList, p.trim_text hm,
    p.patternItems_pattern, hread]

/-- **What is written by a pattern of fields is read by it, down to the finest of them.**  The
pattern has the year, the month and the day, and the first `k` of the hour, the minute, the
second and the millisecond, in any order and with separators between them.  A number of
milliseconds that is written by it is read as the number cut to the finest field; but if this is
the hour, as midnight. -/
theorem parseDate_formatDate (p : FieldPattern) {k : Nat} (hfields : p.fields.Perm (Field.upTo k))
    (hyear : (Instant.atMillis n).HasPlainYear) {r : Options}
    (ho : o.format = some (String.ofList p.pattern))
    (hr : r.inputFormat = some (String.ofList p.pattern)) :
    (k ≠ 1 → ∃ t, Instant.ofMillis? (n / finestUnit k * finestUnit k) = some t ∧
      parseDate r (formatDate o (.int n)) = .text (isoText t)) ∧
    (k = 1 → ∃ t, Instant.ofMillis? (n / finestUnit 0 * finestUnit 0) = some t ∧
      parseDate r (formatDate o (.int n)) = .text (isoText t)) := by
  have hm := (Instant.isRegular_atMillis n).isProper hyear
  have hmidnight (hk : k < 2) : ∃ t, Instant.ofMillis? (n / finestUnit 0 * finestUnit 0) = some t ∧
      parseDate r (formatDate o (.int n)) = .text (isoText t) := by
    refine ⟨_, (hyear.floor 0).ofMillis?, ?_⟩
    rw [formatDate_pattern hyear ho]
    exact parseDate_pattern hm hr (p.readByItems?_text_of_lt hyear hfields hk)
  refine ⟨fun hk => ?_, fun hk => hmidnight (by omega)⟩
  rcases Nat.lt_or_ge k 2 with hlt | hle
  · obtain rfl : k = 0 := by omega
    exact hmidnight hlt
  · refine ⟨_, (hyear.floor k).ofMillis?, ?_⟩
    rw [formatDate_pattern hyear ho]
    exact parseDate_pattern hm hr (p.readByItems?_text_of_le hyear hfields hle)

/-- The last millisecond before 1970, written and read to the minute. -/
theorem parseDate_formatDate_minute :
    parseDate { inputFormat := some "mm.HH dd/MM/yyyy" }
        (formatDate { format := some "mm.HH dd/MM/yyyy" } (.int (-1))) =
      .str "1969-12-31T23:59:00.000Z" := by
  have hread := (parseDate_formatDate (n := -1) (k := 2)
    ⟨.minute, [('.', .hour), (' ', .day), ('/', .month), ('/', .year)], by decide⟩
    (by decide) (by decide)
    (o := { format := some "mm.HH dd/MM/yyyy" }) (r := { inputFormat := some "mm.HH dd/MM/yyyy" })
    rfl rfl).1 (by decide)
  obtain ⟨t, ht, hparse⟩ := hread
  have hfloor : Instant.ofMillis? (-1 / finestUnit 2 * finestUnit 2) = some ⟨-60, 0⟩ := rfl
  obtain rfl : ⟨-60, 0⟩ = t := Option.some.inj (hfloor.symm.trans ht)
  exact hparse

/-- An hour without a minute is written, and not read. -/
theorem exists_parseDate_formatDate_ne :
    ∃ (p : FieldPattern) (n : Int) (t : Instant), p.fields.Perm (Field.upTo 1) ∧
      (Instant.atMillis n).HasPlainYear ∧
      Instant.ofMillis? (n / finestUnit 1 * finestUnit 1) = some t ∧
      parseDate { inputFormat := some (String.ofList p.pattern) }
        (formatDate { format := some (String.ofList p.pattern) } (.int n)) ≠ .text (isoText t) := by
  let p : FieldPattern := ⟨.year, [('-', .month), ('-', .day), (' ', .hour)], by decide⟩
  have hfields : p.fields.Perm (Field.upTo 1) := by decide
  have hyear : (Instant.atMillis 1709993100000).HasPlainYear := by decide
  have hm := (Instant.isRegular_atMillis 1709993100000).isProper hyear
  refine ⟨p, 1709993100000, ⟨1709992800, 0⟩, hfields, hyear, rfl, ?_⟩
  rw [formatDate_pattern hyear rfl,
    parseDate_pattern hm rfl (p.readByItems?_text_of_lt hyear hfields (by decide))]
  exact fun h => absurd (Value.str.inj h) (by decide)

/-! ### Formats -/

/-- **Every pattern has a format by which every date can be written.**  Whatever text a pattern
is, the text of its items is put together from percent signs written twice, other characters,
and the listed directives, and in one way only, which is found from left to right.  A percent
sign of the pattern is one that is written twice.

So a function that can write the listed directives does not fail on it, and a date is written as
this function does.  Further a text with a character other than a quote is written as it is by
the pattern that has it in quotes. -/
theorem formatDate_directives (s : List Char) :
    ((∀ item ∈ patternItems s, item.IsListed) ∧
      (∀ items : List Item, (∀ item ∈ items, item.IsListed) →
        directives items = directives (patternItems s) → items = patternItems s) ∧
      readFormat? (directives (patternItems s)) = some (patternItems s)) ∧
    (∀ before after, s = before ++ '%' :: after → ∃ quoted,
      patternItems s = patternItems before ++ .char '%' :: itemsFrom quoted after) ∧
    (∀ (o : Options) (v : Value) (t : Instant) (write : List Char → Option (List Char)),
      o.format.or o.outputFormat = some (String.ofList s) → instantOf? o.inputFormat v = some t →
      IsFormatter write t →
      ∃ out, write (directives (patternItems s)) = some out ∧ formatDate o v = .text out) ∧
    ((∃ c ∈ s, c ≠ quoteMark) → ∀ (o : Options) (v : Value) (t : Instant),
      o.format.or o.outputFormat = some (String.ofList (quotedPattern s)) →
      instantOf? o.inputFormat v = some t → formatDate o v = .text s) := by
  have hlisted : ∀ item ∈ patternItems s, item.IsListed := fun item => isListed_of_mem_itemsFrom
  have hread := readFormat?_eq_some_iff.2 ⟨hlisted, rfl⟩
  refine ⟨⟨hlisted, ?_, hread⟩, ?_, ?_, ?_⟩
  · intro items hitems heq
    exact Option.some.inj ((readFormat?_eq_some_iff.2 ⟨hitems, heq.symm⟩).symm.trans hread)
  · rintro before after rfl
    exact patternItems_percent before after
  · intro o v t write ho ht hwrite
    exact ⟨_, hwrite.write_directives hlisted, formatDate_of_pattern ho ht⟩
  · intro hs o v t ho ht
    rw [formatDate_of_pattern ho ht, patternItems_quotedPattern hs, render_map_char]

/-- A quote that is not closed, with a percent sign and a letter in it, and a text that begins
with a quote. -/
theorem formatDate_directives_unclosed :
    (∀ items : List Item, (∀ item ∈ items, item.IsListed) →
        directives items = "%y o'%%Y".toList → items = patternItems "yy 'o''%Y".toList) ∧
      (∃ quoted, patternItems "yy 'o''%Y".toList =
        patternItems "yy 'o''".toList ++ .char '%' :: itemsFrom quoted "Y".toList) ∧
      formatDate { format := some "yy 'o''%Y" } (.int 0) = .str "70 o'%Y" ∧
      formatDate { format := some "'''o''%clock'" } (.int 0) = .str "'o'%clock" := by
  obtain ⟨⟨-, hunique, -⟩, hpercent, hwrite, -⟩ := formatDate_directives "yy 'o''%Y".toList
  obtain ⟨-, -, -, hquoted⟩ := formatDate_directives "'o'%clock".toList
  have hinstant : instantOf? none (.int 0) = some ⟨0, 0⟩ := rfl
  have hformat : directives (patternItems "yy 'o''%Y".toList) = "%y o'%%Y".toList := by
    decide +kernel
  refine ⟨hformat ▸ hunique, hpercent _ _ rfl, ?_, ?_⟩
  · obtain ⟨out, hout, htext⟩ := hwrite { format := some "yy 'o''%Y" } _ _ _ rfl hinstant
      (isFormatter_renderFormat? _)
    have hvalue : renderFormat? "%y o'%%Y".toList ⟨0, 0⟩ = some "70 o'%Y".toList := by
      decide +kernel
    rw [hformat, hvalue] at hout
    cases hout
    exact htext
  · exact hquoted ⟨'o', by decide⟩ { format := some "'''o''%clock'" } _ _ rfl hinstant

end Step

end RecordFlow
