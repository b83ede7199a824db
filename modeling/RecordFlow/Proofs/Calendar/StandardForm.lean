import RecordFlow.Proofs.Calendar.Readings

/-!
# The standard form, read back

The standard form of an instant in years of four digits is read back as the instant, cut to
whole milliseconds (`readAny?_isoText`), and cutting changes nothing in what is written
(`isoText_wholeMillis`).  The reader of the form of the net takes all of it: field after field,
with the fraction of a second and the letter that stands for no offset.

In other years the standard form begins with a sign, and no reader takes it
(`readAny?_isoText_sign`).  The form of the net has its year without a sign, and the form of the
mail begins with a name or a digit.  The local forms have years with signs, but they are rows of
numbers, and leave the letter at the end of the standard form.

## Main definitions

* `Instant.wholeMillis` — an instant cut to whole milliseconds.
* `isoRest` — the standard form of a moment from after its year.
-/

namespace RecordFlow.Calendar

open Text

variable {t : Instant} {m : Moment} {rest : List Char}

/-! ### Whole milliseconds -/

/-- **An instant cut to whole milliseconds.**  The standard form has three digits for the
fraction of a second, and what is below them is lost in it. -/
def Instant.wholeMillis (t : Instant) : Instant :=
  ⟨t.seconds, t.nanos / 1000000 * 1000000⟩

/-- The instant of a number of milliseconds is whole. -/
theorem Instant.wholeMillis_atMillis (n : Int) : (atMillis n).wholeMillis = atMillis n := by
  have hnanos : (n % 1000 * 1000000).toNat / 1000000 * 1000000 = (n % 1000 * 1000000).toNat := by
    omega
  exact congrArg (Instant.mk (n / 1000)) hnanos

/-- **The standard form shows no more than whole milliseconds.** -/
theorem isoText_wholeMillis (t : Instant) : isoText t.wholeMillis = isoText t := by
  have hsecond : t.nanos / 1000000 * 1000000 / nanosPerSecond = t.nanos / nanosPerSecond := by
    rw [nanosPerSecond]
    omega
  have hmillis : t.nanos / 1000000 * 1000000 % nanosPerSecond / 1000000 =
      t.nanos % nanosPerSecond / 1000000 := by
    rw [nanosPerSecond]
    omega
  have hmoment : t.wholeMillis.moment = { t.moment with nanos := t.nanos / 1000000 * 1000000 } :=
    rfl
  have hnanos : t.moment.nanos = t.nanos := rfl
  simp only [isoText, render, isoItems, List.flatMap_cons, List.flatMap_nil, Item.render,
    Part.render, hmoment, hsecond, hmillis, hnanos]

/-! ### The text -/

/-- The standard form of a moment from after its year. -/
def isoRest (m : Moment) : List Char :=
  '-' :: (Field.month.part.render m ++ '-' :: (Field.day.part.render m ++
    'T' :: (Field.hour.part.render m ++ ':' :: (Field.minute.part.render m ++
      ':' :: (Field.second.part.render m ++ '.' :: (Field.millisecond.part.render m ++ ['Z']))))))

theorem isoText_eq (t : Instant) :
    isoText t = Field.year.part.render t.moment ++ isoRest t.moment := by
  simp only [isoText, render, isoItems, isoRest, List.flatMap_cons, List.flatMap_nil, Item.render,
    Field.part, List.cons_append, List.nil_append, List.append_nil]

/-- The letter at the end stands for no offset. -/
theorem getLast?_isoText (t : Instant) : (isoText t).getLast? = some 'Z' := by
  rw [isoText_eq, isoRest]
  simp only [← List.cons_append, ← List.append_assoc, List.getLast?_concat]

/-- A year begins with a digit if it has four digits, and with a sign if not. -/
theorem exists_yearText_eq_cons (year : Int) :
    ∃ c digits, yearText year = c :: digits ∧
      (0 ≤ year ∧ year ≤ 9999 → isAsciiDigit c = true) ∧
      (¬ (0 ≤ year ∧ year ≤ 9999) → c = '-' ∨ c = '+') := by
  by_cases h : 0 ≤ year ∧ year ≤ 9999
  · obtain ⟨c, digits, hcons, hdigit⟩ := exists_padded_eq_cons 4 year.toNat
    refine ⟨c, digits, ?_, fun _ => hdigit, fun hnot => absurd h hnot⟩
    rw [yearText, if_pos h, hcons]
  · rw [yearText, if_neg h]
    refine ⟨_, _, rfl, fun hpos => absurd hpos h, fun _ => ?_⟩
    split
    · exact .inl rfl
    · exact .inr rfl

/-- There is no white space around the standard form. -/
theorem trim_isoText (t : Instant) : trim (isoText t) = isoText t := by
  obtain ⟨c, digits, hcons, hdigit, hsign⟩ := exists_yearText_eq_cons t.moment.date.year
  have hblank : isBlank c = false := by
    by_cases h : 0 ≤ t.moment.date.year ∧ t.moment.date.year ≤ 9999
    · exact isBlank_of_isDecimalDigit (isDecimalDigit_of_isAsciiDigit (hdigit h))
    · rcases hsign h with rfl | rfl <;> decide
  have hhead : (isoText t).head? = some c := by
    rw [isoText_eq, show Field.year.part.render t.moment = c :: digits from hcons]
    rfl
  exact trim_eq_self hhead hblank (getLast?_isoText t) (by decide)

/-! ### Reading it back -/

/-- A field is scanned in all its digits. -/
theorem Field.scanNumber?_render (h : m.IsProper) {f : Field} {width : Nat} (hf : f.width = width) :
    scanNumber? width width (f.part.render m ++ rest) = some (f.value m, rest) := by
  have hwidth : 0 < f.width := by cases f <;> decide
  rw [f.render_eq h, ← hf]
  exact scanNumber?_padded hwidth (h.value_lt f) (Nat.le_refl _) (Nat.le_refl _)
    (fun hlt => absurd hlt (Nat.lt_irrefl _))

/-- The milliseconds are scanned as a fraction of a second. -/
theorem scanFraction?_millisecond (h : m.IsProper) :
    scanFraction? (Field.millisecond.part.render m ++ ['Z']) =
      some (Field.millisecond.value m * 1000000, ['Z']) := by
  have hlt := h.value_lt .millisecond
  have hscan : scanNumber? 1 9 (padded 3 (Field.millisecond.value m) ++ ['Z']) =
      some (Field.millisecond.value m, ['Z']) := by
    refine scanNumber?_padded (by decide) hlt (by decide) (by decide) fun _ d hd => ?_
    rw [← Option.some.inj hd]
    decide
  have hlength : (padded 3 (Field.millisecond.value m) ++ ['Z']).length - ['Z'].length = 3 := by
    rw [List.length_append, Nat.add_sub_cancel]
    exact length_padded (by decide) hlt
  rw [Field.millisecond.render_eq h, scanFraction?, show Field.millisecond.width = 3 from rfl,
    hscan, Option.map_some]
  simp only [hlength]
  rfl

/-- All fields of a date and a time of day, the last of them first. -/
def Field.all : List Field :=
  [.millisecond, .second, .minute, .hour, .day, .month, .year]

/-- **The form of the net is read field after field.** -/
theorem readRfc3339?_eq_some (h : m.IsProper)
    (ht : Sheet.instant? { Sheet.of m Field.all with offset := some 0 } = some t) :
    readRfc3339? (Field.year.part.render m ++ isoRest m) = some t := by
  have hyear : Sheet.setYear {} (Field.year.value m : Nat) = some (Sheet.of m [.year]) := by
    rw [show ((Field.year.value m : Nat) : Int) = m.date.year from Int.toNat_of_nonneg h.year_mem.1]
    exact @Field.set?_of m [] h .year
  have hfraction : Part.read? (Sheet.of m [.second, .minute, .hour, .day, .month, .year])
      ('.' :: (Field.millisecond.part.render m ++ ['Z'])) .fraction =
        some (Sheet.of m Field.all, ['Z']) :=
    Option.bind_eq_some_iff.2 ⟨_, scanFraction?_millisecond h,
      Option.bind_eq_some_iff.2 ⟨_, Field.millisecond.set?_of h, rfl⟩⟩
  refine Option.bind_eq_some_iff.2 ⟨_, Field.scanNumber?_render h (f := .year) rfl, ?_⟩
  refine Option.bind_eq_some_iff.2 ⟨_, hyear, ?_⟩
  refine Option.bind_eq_some_iff.2 ⟨_, skipChar?_cons _ _, ?_⟩
  refine Option.bind_eq_some_iff.2 ⟨_, Field.scanNumber?_render h (f := .month) rfl, ?_⟩
  refine Option.bind_eq_some_iff.2 ⟨_, Field.month.set?_of h, ?_⟩
  refine Option.bind_eq_some_iff.2 ⟨_, skipChar?_cons _ _, ?_⟩
  refine Option.bind_eq_some_iff.2 ⟨_, Field.scanNumber?_render h (f := .day) rfl, ?_⟩
  refine Option.bind_eq_some_iff.2 ⟨_, Field.day.set?_of h, ?_⟩
  refine Option.bind_eq_some_iff.2 ⟨_, congrArg (Option.or · _) (skipChar?_cons _ _), ?_⟩
  refine Option.bind_eq_some_iff.2 ⟨_, Field.scanNumber?_render h (f := .hour) rfl, ?_⟩
  refine Option.bind_eq_some_iff.2 ⟨_, Field.hour.set?_of h, ?_⟩
  refine Option.bind_eq_some_iff.2 ⟨_, skipChar?_cons _ _, ?_⟩
  refine Option.bind_eq_some_iff.2 ⟨_, Field.scanNumber?_render h (f := .minute) rfl, ?_⟩
  refine Option.bind_eq_some_iff.2 ⟨_, Field.minute.set?_of h, ?_⟩
  refine Option.bind_eq_some_iff.2 ⟨_, skipChar?_cons _ _, ?_⟩
  refine Option.bind_eq_some_iff.2 ⟨_, Field.scanNumber?_render h (f := .second) rfl, ?_⟩
  refine Option.bind_eq_some_iff.2 ⟨_, Field.second.set?_of h, ?_⟩
  refine Option.bind_eq_some_iff.2 ⟨_, hfraction, ?_⟩
  exact Option.bind_eq_some_iff.2 ⟨(0, []), rfl, ht⟩

/-- **The standard form of an instant in years of four digits is in the form of the net.** -/
theorem readRfc3339?_isoText (h : t.IsRegular) (hyear : t.HasPlainYear) :
    readRfc3339? (isoText t) = some t.wholeMillis := by
  have hproper := h.isProper hyear
  have hmoment : (Sheet.of t.moment Field.all).moment? = some (t.moment.upTo Field.all) :=
    Sheet.moment?_of hproper (Sheet.date?_of hproper (by decide) (by decide) (by decide))
      (by decide) (by decide) (by decide)
  have htime : (t.moment.upTo Field.all).toInstant 0 = t.wholeMillis :=
    congrArg (Instant.mk · (t.nanos / 1000000 * 1000000))
      (congrArg Instant.seconds t.toInstant_moment)
  have hvalid : t.wholeMillis.isValid = true := hyear.isValid
  have hresolve : Sheet.instant? { Sheet.of t.moment Field.all with offset := some 0 } =
      (Sheet.of t.moment Field.all).moment?.bind fun m =>
        if (m.toInstant 0).isValid then some (m.toInstant 0) else none := rfl
  rw [isoText_eq]
  refine readRfc3339?_eq_some hproper ?_
  rw [hresolve, hmoment, Option.bind_some, htime, if_pos hvalid]

/-- **The standard form of an instant in years of four digits is read back,** to the
millisecond. -/
theorem readAny?_isoText (h : t.IsRegular) (hyear : t.HasPlainYear) :
    readAny? (isoText t) = some t.wholeMillis := by
  rw [readAny?, readRfc3339?_isoText h hyear, Option.some_or]

/-! ### Years with a sign -/

/-- A year out of the four digits is written with a sign. -/
theorem exists_isoText_eq_sign (hyear : ¬ t.HasPlainYear) :
    ∃ c rest, isoText t = c :: rest ∧ (c = '-' ∨ c = '+') := by
  obtain ⟨c, digits, hcons, -, hsign⟩ := exists_yearText_eq_cons t.moment.date.year
  refine ⟨c, digits ++ isoRest t.moment, ?_, hsign hyear⟩
  rw [isoText_eq, show Field.year.part.render t.moment = c :: digits from hcons, List.cons_append]

/-- A word is not there if its first letter is not. -/
theorem dropWord?_eq_none {word : List Char} {c d : Char} (hd : word.head? = some d)
    (hne : lowerLetter d ≠ lowerLetter c) : dropWord? word (c :: rest) = none := by
  obtain ⟨letters, rfl⟩ := List.head?_eq_some_iff.1 hd
  refine if_neg fun h => hne ?_
  rw [List.length_cons, List.take_succ_cons, List.map_cons, List.map_cons] at h
  exact (List.cons.inj h).1

section Sign

variable {c : Char} (hc : c = '-' ∨ c = '+')

include hc

/-- A number does not begin with a sign. -/
theorem scanNumber?_sign {least most : Nat} :
    scanNumber? least most (c :: rest) = none := by
  rw [Option.eq_none_iff_forall_ne_some]
  rintro ⟨n, after⟩ hscan
  obtain ⟨digits, hcons, hdigits, hpos, -⟩ := exists_of_scanNumber? hscan
  obtain ⟨d, digits, rfl⟩ := List.exists_cons_of_length_pos hpos
  obtain ⟨rfl, -⟩ := List.cons.inj hcons
  have hdigit := hdigits c List.mem_cons_self
  rcases hc with rfl | rfl <;> cases hdigit

theorem readRfc3339?_sign : readRfc3339? (c :: rest) = none := by
  rw [readRfc3339?, scanNumber?_sign hc]
  rfl

/-- No name of a day begins with a sign. -/
theorem scanName?_sign : scanName? weekdayNames false (c :: rest) = none := by
  have hnames : ∀ name ∈ weekdayNames, (name.toList.take 3).head?.any
      (fun d => lowerLetter d != '-' && lowerLetter d != '+') = true := by
    decide
  rw [scanName?, List.findSome?_eq_none_iff]
  rintro ⟨name, index⟩ hname
  obtain ⟨d, hd, hne⟩ := (Option.any_eq_true _ _).1 (hnames name (List.fst_mem_of_mem_zipIdx hname))
  rw [Bool.and_eq_true, bne_iff_ne, bne_iff_ne] at hne
  have hword : dropWord? (name.toList.take 3) (c :: rest) = none := by
    refine dropWord?_eq_none hd ?_
    rcases hc with rfl | rfl
    · exact hne.1
    · exact hne.2
  simp only [hword, Option.map_none]

/-- The form of the mail begins with the name of a day or with a number. -/
theorem readRfc2822?_sign : readRfc2822? (c :: rest) = none := by
  have hblank : isBlank c = false := by rcases hc with rfl | rfl <;> decide
  have hweekday : readMailWeekday? (c :: rest) = some ({}, c :: rest) := by
    rw [readMailWeekday?, scanName?_sign hc]
  rw [readRfc2822?, trimStart_cons_of_not_blank hblank, hweekday]
  show (scanNumber? 1 2 (trimStart (c :: rest))).bind _ = none
  rw [trimStart_cons_of_not_blank hblank, scanNumber?_sign hc, Option.bind_none]

end Sign

/-- The local forms of a date are rows of numbers. -/
theorem isNumeric_localForms :
    ∀ items ∈ dateItems :: localForms, ∀ item ∈ items, item.isNumeric 'Z' = true := by
  decide

/-- **No reader takes a standard form that begins with a sign.** -/
theorem readAny?_isoText_sign (hyear : ¬ t.HasPlainYear) : readAny? (isoText t) = none := by
  have hz : 'Z' ∈ isoText t := List.mem_of_getLast? (getLast?_isoText t)
  have hforeign : IsForeign 'Z' := ⟨by decide, by decide, by decide⟩
  have hitems : ∀ items ∈ dateItems :: localForms, readItems? items (isoText t) = none :=
    fun items hmem => readItems?_eq_none hforeign (isNumeric_localForms items hmem) hz
  have hlocal : (localForms.findSome? fun items =>
      ((readItems? items (isoText t)).bind Sheet.moment?).map (·.toInstant 0)) = none := by
    rw [List.findSome?_eq_none_iff]
    intro items hmem
    rw [hitems items (List.mem_cons_of_mem _ hmem)]
    rfl
  have hdate := hitems dateItems List.mem_cons_self
  obtain ⟨c, rest, hsign, hc⟩ := exists_isoText_eq_sign hyear
  rw [readAny?, hlocal, hdate, hsign, readRfc3339?_sign hc, readRfc2822?_sign hc]
  rfl

end RecordFlow.Calendar
