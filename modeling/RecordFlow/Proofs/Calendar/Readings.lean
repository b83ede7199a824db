import RecordFlow.Proofs.Calendar.Fields

/-!
# What the readers of dates give and take

Whatever text a date is read from, and in whatever form, the instant is regular: a leap second
in it ends a minute (`isRegular_of_readAny?`, `isRegular_of_readByItems?`).  Only the fraction
of a second and the offset bear on that.  Every part of a date leaves these two alone or puts
down a fraction of less than a second and an offset in whole minutes, so that the sheet stays
regular from its first part to its last (`isRegular_of_readAll?`).

The items of a number take digits, signs, a point and white space from a text, and nothing else.
So another character that is in the text stays in what is left of it (`mem_of_readAll?`), and no
text with a letter in it is read as a row of numbers (`readItems?_eq_none`).

## Main definitions

* `Sheet.IsRegular` — the fraction on a sheet is less than a second, and the offset in minutes.
* `IsForeign` — a character that no number of a date is written with.
* `Part.isNumeric`, `Item.isNumeric` — whether a part is a number, and an item one or a
  character other than a given one.
-/

namespace RecordFlow.Calendar

open Text

variable {sheet sheet' : Sheet} {s rest : List Char} {c : Char} {n : Nat} {t : Instant}
variable {items : List Item}

/-- What every step of a chain of readings establishes, the chain does. -/
theorem forall_mem_bind {α β : Type} {P : β → Prop} {o : Option α} {f : α → Option β}
    (h : ∀ a ∈ o, ∀ b ∈ f a, P b) : ∀ b ∈ o.bind f, P b := by
  intro b hb
  obtain ⟨a, ha, hfa⟩ := Option.bind_eq_some_iff.1 hb
  exact h a ha b hfa

/-! ### Regular sheets -/

/-- **A sheet whose fraction is less than a second,** and whose offset is in whole minutes.
What is put down field by field stays so, whatever the text is that is read, and so the moment
that it resolves to can be written. -/
structure Sheet.IsRegular (s : Sheet) : Prop where
  nanos_lt : ∀ n ∈ s.nanos, n < 1000000000
  offset_mod : ∀ seconds ∈ s.offset, seconds % 60 = 0

theorem Sheet.isRegular_empty : Sheet.IsRegular {} where
  nanos_lt _ h := nomatch h
  offset_mod _ h := nomatch h

/-- What is put down is on the sheet. -/
theorem eq_of_agree {α : Type} [DecidableEq α] {old new : Option α} {x : α}
    (h : agree old x = some new) : new = some x := by
  cases old with
  | none =>
    cases h
    rfl
  | some y =>
    rw [agree] at h
    split at h
    · next hxy =>
      cases h
      rw [hxy]
    · cases h

namespace Sheet.IsRegular

variable {year : Int} {seconds : Int} {after : Bool}

/-- A datum that is neither the fraction nor the offset does not matter. -/
theorem put {α : Type} {datum : Option α} {set : α → Sheet} (h : sheet.IsRegular)
    (hset : ∀ x, (set x).nanos = sheet.nanos ∧ (set x).offset = sheet.offset) :
    ∀ s ∈ datum.bind fun x => some (set x), s.IsRegular := by
  refine forall_mem_bind fun x _ s hs => ?_
  obtain ⟨hnanos, hoffset⟩ := hset x
  rw [← Option.some.inj hs]
  exact ⟨hnanos ▸ h.nanos_lt, hoffset ▸ h.offset_mod⟩

theorem setYear (h : sheet.IsRegular) : ∀ s ∈ sheet.setYear year, s.IsRegular :=
  h.put fun _ => ⟨rfl, rfl⟩

theorem setYearOfCentury (h : sheet.IsRegular) : ∀ s ∈ sheet.setYearOfCentury n, s.IsRegular :=
  forall_mem_bind fun _ _ => h.put fun _ => ⟨rfl, rfl⟩

theorem setMonth (h : sheet.IsRegular) : ∀ s ∈ sheet.setMonth n, s.IsRegular :=
  forall_mem_bind fun _ _ => h.put fun _ => ⟨rfl, rfl⟩

theorem setDay (h : sheet.IsRegular) : ∀ s ∈ sheet.setDay n, s.IsRegular :=
  forall_mem_bind fun _ _ => h.put fun _ => ⟨rfl, rfl⟩

theorem setWeekday (h : sheet.IsRegular) : ∀ s ∈ sheet.setWeekday n, s.IsRegular :=
  h.put fun _ => ⟨rfl, rfl⟩

theorem setHalf (h : sheet.IsRegular) : ∀ s ∈ sheet.setHalf after, s.IsRegular :=
  h.put fun _ => ⟨rfl, rfl⟩

theorem setHour (h : sheet.IsRegular) : ∀ s ∈ sheet.setHour n, s.IsRegular :=
  forall_mem_bind fun _ _ => forall_mem_bind fun half hhalf =>
    (h.setHalf half hhalf).put fun _ => ⟨rfl, rfl⟩

theorem setHourOfHalf (h : sheet.IsRegular) : ∀ s ∈ sheet.setHourOfHalf n, s.IsRegular :=
  forall_mem_bind fun _ _ => h.put fun _ => ⟨rfl, rfl⟩

theorem setMinute (h : sheet.IsRegular) : ∀ s ∈ sheet.setMinute n, s.IsRegular :=
  forall_mem_bind fun _ _ => h.put fun _ => ⟨rfl, rfl⟩

theorem setSecond (h : sheet.IsRegular) : ∀ s ∈ sheet.setSecond n, s.IsRegular :=
  forall_mem_bind fun _ _ => h.put fun _ => ⟨rfl, rfl⟩

/-- A fraction of less than a second keeps a sheet regular. -/
theorem setNanos (h : sheet.IsRegular) (hn : n < 1000000000) :
    ∀ s ∈ sheet.setNanos n, s.IsRegular := by
  refine forall_mem_bind fun nanos hnanos s hs => ?_
  rw [← Option.some.inj hs, eq_of_agree hnanos]
  refine ⟨?_, h.offset_mod⟩
  rintro _ ⟨⟩
  exact hn

/-- An offset in whole minutes keeps a sheet regular. -/
theorem setOffset (h : sheet.IsRegular) (hseconds : seconds % 60 = 0) :
    ∀ s ∈ sheet.setOffset seconds, s.IsRegular := by
  refine forall_mem_bind fun offset hoffset s hs => ?_
  rw [← Option.some.inj hs, eq_of_agree hoffset]
  refine ⟨h.nanos_lt, ?_⟩
  rintro _ ⟨⟩
  exact hseconds

end Sheet.IsRegular

/-! ### What regular sheets resolve to -/

/-- A moment of a regular sheet goes on beyond a second in second fifty-nine only. -/
theorem Sheet.IsRegular.moment? (h : sheet.IsRegular) :
    ∀ m ∈ sheet.moment?, m.nanos < 2 * 1000000000 ∧ (1000000000 ≤ m.nanos → m.second = 59) := by
  have hnanos : sheet.nanos.getD 0 < 1000000000 := by
    cases hn : sheet.nanos with
    | none => decide
    | some n => exact h.nanos_lt n hn
  refine forall_mem_bind fun _ _ => forall_mem_bind fun _ _ => forall_mem_bind fun _ _ =>
    forall_mem_bind fun _ _ m hm => ?_
  split at hm
  · cases hm
  · rw [← Option.some.inj hm, show nanosPerSecond = 1000000000 from rfl]
    simp only
    split <;> omega

/-- **Moments of regular sheets are regular instants,** seen from any whole minute east. -/
theorem Moment.isRegular_toInstant {m : Moment} {offset : Int}
    (hlt : m.nanos < 2 * 1000000000) (hleap : 1000000000 ≤ m.nanos → m.second = 59)
    (hoffset : offset % 60 = 0) : (m.toInstant offset).IsRegular where
  nanos_lt := hlt
  leap h := by
    have hsecond := hleap h
    show (m.date.toDays * 86400 + (m.hour * 3600 + m.minute * 60 + m.second : Nat) - offset) % 60 =
      59
    omega

theorem Sheet.IsRegular.instant? (h : sheet.IsRegular) : ∀ t ∈ sheet.instant?, t.IsRegular := by
  refine forall_mem_bind fun offset hoffset => forall_mem_bind fun m hm t ht => ?_
  obtain ⟨hlt, hleap⟩ := h.moment? m hm
  have htime : m.toInstant offset = t := by
    simp only [Option.ite_none_right_eq_some, Option.mem_def, Option.some.injEq] at ht
    exact ht.2.2
  rw [← htime]
  exact Moment.isRegular_toInstant hlt hleap (h.offset_mod offset hoffset)

theorem Sheet.IsRegular.localInstant? (h : sheet.IsRegular) :
    ∀ t ∈ sheet.moment?.map (·.toInstant 0), t.IsRegular := by
  intro t ht
  obtain ⟨m, hm, rfl⟩ := Option.map_eq_some_iff.1 ht
  obtain ⟨hlt, hleap⟩ := h.moment? m hm
  exact Moment.isRegular_toInstant hlt hleap rfl

theorem Sheet.isRegular_of_midnight? : ∀ t ∈ sheet.midnight?, t.IsRegular := by
  intro t ht
  obtain ⟨date, -, rfl⟩ := Option.map_eq_some_iff.1 ht
  refine Moment.isRegular_toInstant (Nat.zero_lt_succ _) (fun h => ?_) rfl
  exact absurd h (Nat.not_succ_le_zero _)

/-! ### Reading keeps sheets regular -/

/-- A fraction that is read is less than a second. -/
theorem lt_of_scanFraction? (h : scanFraction? s = some (n, rest)) : n < 1000000000 := by
  rw [scanFraction?, Option.map_eq_some_iff] at h
  obtain ⟨⟨digitsNumber, after⟩, hscan, heq⟩ := h
  obtain ⟨rfl, -⟩ := Prod.mk.inj heq
  obtain ⟨digits, rfl, hdigits, -, -, hlength, rfl⟩ := exists_of_scanNumber? hscan
  have hlt := digitsValue_lt hdigits
  rw [List.length_append, Nat.add_sub_cancel]
  calc digitsValue digits * 10 ^ (9 - digits.length)
      < 10 ^ digits.length * 10 ^ (9 - digits.length) :=
        Nat.mul_lt_mul_of_pos_right hlt (Nat.pow_pos (by decide))
    _ = 10 ^ 9 := by rw [← Nat.pow_add, Nat.add_sub_cancel' hlength]

/-- An offset that is read is in whole minutes. -/
theorem mod_of_scanOffset? {proper : Bool} {skip : List Char → Option (List Char)} :
    ∀ p ∈ scanOffset? proper skip s, p.1 % 60 = 0 := by
  refine forall_mem_bind fun _ _ => forall_mem_bind fun hours _ => forall_mem_bind fun _ _ =>
    forall_mem_bind fun _ _ => forall_mem_bind fun minutes _ p hp => ?_
  rw [← Option.some.inj hp]
  simp only
  split <;> omega

/-- What a part puts down of what it has read keeps a sheet regular, if every datum that can be
read does. -/
theorem isRegular_of_read {α : Type} {scanned : Option (α × List Char)} {set : α → Option Sheet}
    (h : ∀ x after, (x, after) ∈ scanned → ∀ s ∈ set x, s.IsRegular) :
    ∀ r ∈ scanned.bind fun p => (set p.1).bind fun s => some (s, p.2), r.1.IsRegular := by
  refine forall_mem_bind fun p hp => forall_mem_bind fun s hs r hr => ?_
  rw [← Option.some.inj hr]
  exact h p.1 p.2 hp s hs

/-- **Reading a part keeps a sheet regular.** -/
theorem isRegular_of_partRead? (h : sheet.IsRegular) (p : Part) :
    ∀ r ∈ p.read? sheet s, r.1.IsRegular := by
  cases p with
  | year => exact isRegular_of_read fun _ _ _ => h.setYear
  | yearOfCentury => exact isRegular_of_read fun _ _ _ => h.setYearOfCentury
  | month padded => exact isRegular_of_read fun _ _ _ => h.setMonth
  | monthName long => exact isRegular_of_read fun _ _ _ => h.setMonth
  | day padded => exact isRegular_of_read fun _ _ _ => h.setDay
  | hour padded => exact isRegular_of_read fun _ _ _ => h.setHour
  | hourOfHalf padded => exact isRegular_of_read fun _ _ _ => h.setHourOfHalf
  | minute padded => exact isRegular_of_read fun _ _ _ => h.setMinute
  | second padded => exact isRegular_of_read fun _ _ _ => h.setSecond
  | halfDay => exact isRegular_of_read fun _ _ _ => h.setHalf
  | weekdayName long => exact isRegular_of_read fun _ _ _ => h.setWeekday
  | millisecond =>
    refine @isRegular_of_read Nat _ (fun n => sheet.setNanos (n * 1000000)) fun n after hscan => ?_
    have hlt : n < 10 ^ 3 := lt_of_scanNumber? hscan
    exact h.setNanos (by omega)
  | fraction =>
    simp only [Part.read?]
    split
    · exact isRegular_of_read fun n after hscan => h.setNanos (lt_of_scanFraction? hscan)
    · rintro r ⟨⟩
      exact h
  | offset =>
    exact isRegular_of_read fun seconds after hscan => h.setOffset (mod_of_scanOffset? _ hscan)

theorem isRegular_of_itemRead? (h : sheet.IsRegular) (item : Item) :
    ∀ r ∈ item.read? sheet s, r.1.IsRegular := by
  cases item with
  | part p => exact isRegular_of_partRead? h p
  | char d =>
    intro r hr
    rw [Item.read?] at hr
    split at hr
    · cases hr
      exact h
    · obtain ⟨after, -, rfl⟩ := Option.map_eq_some_iff.1 hr
      exact h

/-- **Reading items keeps a sheet regular,** from the first of them to the last. -/
theorem isRegular_of_readAll? (h : sheet.IsRegular) :
    ∀ r ∈ readAll? sheet s items, r.1.IsRegular := by
  induction items generalizing sheet s with
  | nil =>
    rintro r ⟨⟩
    exact h
  | cons item items ih =>
    exact forall_mem_bind fun r hr => ih (isRegular_of_itemRead? h item r hr)

theorem isRegular_of_readItems? : ∀ sheet ∈ readItems? items s, sheet.IsRegular := by
  intro sheet hsheet
  rw [readItems?] at hsheet
  split at hsheet
  · next hread =>
    cases hsheet
    exact isRegular_of_readAll? Sheet.isRegular_empty _ hread
  · cases hsheet

/-- **Instants that are read by a pattern are regular.** -/
theorem isRegular_of_readByItems? : ∀ t ∈ readByItems? items s, t.IsRegular := by
  refine forall_mem_bind fun sheet hsheet t ht => ?_
  have hregular := isRegular_of_readItems? sheet hsheet
  rcases Option.or_eq_some_iff.1 ht with ht | ⟨-, ht⟩
  · exact hregular.instant? t ht
  · rcases Option.or_eq_some_iff.1 ht with ht | ⟨-, ht⟩
    · exact hregular.localInstant? t ht
    · exact Sheet.isRegular_of_midnight? t ht

theorem mod_of_scanOffsetOrZ? : ∀ p ∈ scanOffsetOrZ? s, p.1 % 60 = 0 := by
  intro p h
  rw [scanOffsetOrZ?] at h
  split at h
  · cases h
    rfl
  · exact mod_of_scanOffset? p h

/-- Instants in the form of the net are regular. -/
theorem isRegular_of_readRfc3339? : ∀ t ∈ readRfc3339? s, t.IsRegular := by
  have h := Sheet.isRegular_empty
  refine forall_mem_bind fun _ _ => forall_mem_bind fun sheet hyear => ?_
  replace h := h.setYear sheet hyear
  refine forall_mem_bind fun _ _ => forall_mem_bind fun _ _ => ?_
  refine forall_mem_bind fun sheet hmonth => ?_
  replace h := h.setMonth sheet hmonth
  refine forall_mem_bind fun _ _ => forall_mem_bind fun _ _ => ?_
  refine forall_mem_bind fun sheet hday => ?_
  replace h := h.setDay sheet hday
  refine forall_mem_bind fun _ _ => forall_mem_bind fun _ _ => ?_
  refine forall_mem_bind fun sheet hhour => ?_
  replace h := h.setHour sheet hhour
  refine forall_mem_bind fun _ _ => forall_mem_bind fun _ _ => ?_
  refine forall_mem_bind fun sheet hminute => ?_
  replace h := h.setMinute sheet hminute
  refine forall_mem_bind fun _ _ => forall_mem_bind fun _ _ => ?_
  refine forall_mem_bind fun sheet hsecond => ?_
  replace h := h.setSecond sheet hsecond
  refine forall_mem_bind fun read hread => ?_
  replace h := isRegular_of_partRead? h .fraction read hread
  refine forall_mem_bind fun zone hzone t ht => ?_
  have hmod := mod_of_scanOffsetOrZ? zone hzone
  obtain ⟨seconds, after⟩ := zone
  simp only [Option.mem_def, Option.ite_none_right_eq_some] at ht
  exact forall_mem_bind (fun sheet hoffset => (h.setOffset hmod sheet hoffset).instant?) t ht.2

/-- An offset by name is in whole hours. -/
theorem mod_of_zoneOffset? {name : List Char} : ∀ seconds ∈ zoneOffset? name, seconds % 60 = 0 := by
  intro seconds h
  rw [zoneOffset?] at h
  split at h
  · cases h
    omega
  · split at h
    · cases h
      rfl
    · cases h

theorem mod_of_scanZone? : ∀ p ∈ scanZone? s, p.1 % 60 = 0 := by
  intro p h
  rw [scanZone?] at h
  split at h
  · exact mod_of_scanOffset? p h
  · obtain ⟨seconds, hzone, rfl⟩ := Option.map_eq_some_iff.1 h
    exact mod_of_zoneOffset? seconds hzone

theorem isRegular_of_readMailWeekday? : ∀ r ∈ readMailWeekday? s, r.1.IsRegular := by
  intro r hr
  rw [readMailWeekday?] at hr
  split at hr
  · obtain ⟨_, -, hr⟩ := Option.bind_eq_some_iff.1 hr
    obtain ⟨sheet, hsheet, rfl⟩ := Option.map_eq_some_iff.1 hr
    exact Sheet.isRegular_empty.setWeekday sheet hsheet
  · cases hr
    exact Sheet.isRegular_empty

theorem isRegular_of_readMailSecond? (h : sheet.IsRegular) :
    ∀ r ∈ readMailSecond? sheet s, r.1.IsRegular := by
  intro r hr
  rw [readMailSecond?] at hr
  split at hr
  · obtain ⟨_, -, hr⟩ := Option.bind_eq_some_iff.1 hr
    obtain ⟨sheet, hsheet, rfl⟩ := Option.map_eq_some_iff.1 hr
    exact h.setSecond sheet hsheet
  · cases hr
    exact h

/-- Instants in the form of the mail are regular. -/
theorem isRegular_of_readRfc2822? : ∀ t ∈ readRfc2822? s, t.IsRegular := by
  refine forall_mem_bind fun read hread => ?_
  have h := isRegular_of_readMailWeekday? read hread
  refine forall_mem_bind fun _ _ => forall_mem_bind fun sheet hday => ?_
  replace h := h.setDay sheet hday
  refine forall_mem_bind fun _ _ => forall_mem_bind fun _ _ => ?_
  refine forall_mem_bind fun sheet hmonth => ?_
  replace h := h.setMonth sheet hmonth
  refine forall_mem_bind fun _ _ => forall_mem_bind fun _ _ => forall_mem_bind fun sheet hyear => ?_
  replace h := h.setYear sheet hyear
  refine forall_mem_bind fun _ _ => forall_mem_bind fun _ _ => ?_
  refine forall_mem_bind fun sheet hhour => ?_
  replace h := h.setHour sheet hhour
  refine forall_mem_bind fun _ _ => forall_mem_bind fun _ _ => ?_
  refine forall_mem_bind fun sheet hminute => ?_
  replace h := h.setMinute sheet hminute
  refine forall_mem_bind fun read hread => ?_
  replace h := isRegular_of_readMailSecond? h read hread
  refine forall_mem_bind fun _ _ => forall_mem_bind fun zone hzone t ht => ?_
  have hmod := mod_of_scanZone? zone hzone
  obtain ⟨seconds, after⟩ := zone
  simp only [Option.mem_def, Option.ite_none_right_eq_some] at ht
  exact forall_mem_bind (fun sheet hoffset => (h.setOffset hmod sheet hoffset).instant?) t ht.2

/-- **Instants that are read without a pattern are regular.** -/
theorem isRegular_of_readAny? : ∀ t ∈ readAny? s, t.IsRegular := by
  intro t ht
  rcases Option.or_eq_some_iff.1 ht with ht | ⟨-, ht⟩
  · exact isRegular_of_readRfc3339? t ht
  rcases Option.or_eq_some_iff.1 ht with ht | ⟨-, ht⟩
  · obtain ⟨items, -, hform⟩ := List.exists_of_findSome?_eq_some ht
    obtain ⟨m, hm, rfl⟩ := Option.map_eq_some_iff.1 hform
    obtain ⟨sheet, hsheet, hm⟩ := Option.bind_eq_some_iff.1 hm
    refine (isRegular_of_readItems? sheet hsheet).localInstant? _ ?_
    exact Option.mem_map_of_mem _ hm
  rcases Option.or_eq_some_iff.1 ht with ht | ⟨-, ht⟩
  · exact forall_mem_bind (fun sheet _ => Sheet.isRegular_of_midnight?) t ht
  · exact isRegular_of_readRfc2822? t ht

/-! ### What no number takes -/

/-- **A character that no number of a date is written with.**  No item of a number takes it from
a text, so that a text that holds one is not read by such items alone. -/
structure IsForeign (c : Char) : Prop where
  digit : isAsciiDigit c = false
  blank : isBlank c = false
  mark : c ∉ ['+', '-', '.']

/-- Whether a part is written as a number. -/
def Part.isNumeric : Part → Bool
  | monthName _ => false
  | weekdayName _ => false
  | halfDay => false
  | offset => false
  | _ => true

/-- **Whether an item is a number,** or a character other than a given one. -/
def Item.isNumeric (c : Char) : Item → Bool
  | part p => p.isNumeric
  | char d => d != c

theorem mem_of_scanNumber? {least most : Nat} (hc : IsForeign c)
    (h : scanNumber? least most s = some (n, rest)) (hmem : c ∈ s) : c ∈ rest := by
  obtain ⟨digits, rfl, hdigits, -⟩ := exists_of_scanNumber? h
  refine (List.mem_append.1 hmem).resolve_left fun hdigit => ?_
  exact absurd (hdigits c hdigit) (Bool.eq_false_iff.1 hc.digit)

/-- What follows one of the marks has the character too. -/
theorem IsForeign.mem_of_mem_cons {d : Char} (hc : IsForeign c) (hd : d ∈ ['+', '-', '.'])
    (hmem : c ∈ d :: s) : c ∈ s :=
  (List.mem_cons.1 hmem).resolve_left fun h => hc.mark (h ▸ hd)

theorem mem_of_scanYear? {year : Int} (hc : IsForeign c) (h : scanYear? s = some (year, rest))
    (hmem : c ∈ s) : c ∈ rest := by
  unfold scanYear? at h
  split at h
  all_goals
    obtain ⟨⟨n, after⟩, hscan, heq⟩ := Option.map_eq_some_iff.1 h
    obtain ⟨-, rfl⟩ := Prod.mk.inj heq
  · exact mem_of_scanNumber? hc hscan (hc.mem_of_mem_cons (by decide) hmem)
  · exact mem_of_scanNumber? hc hscan (hc.mem_of_mem_cons (by decide) hmem)
  · exact mem_of_scanNumber? hc hscan hmem

theorem mem_of_scanFraction? (hc : IsForeign c) (h : scanFraction? s = some (n, rest))
    (hmem : c ∈ s) : c ∈ rest := by
  obtain ⟨⟨m, after⟩, hscan, heq⟩ := Option.map_eq_some_iff.1 h
  obtain ⟨-, rfl⟩ := Prod.mk.inj heq
  exact mem_dropWhile hc.digit (mem_of_scanNumber? hc hscan hmem)

/-- What a part leaves of a text has the character, if what is read of it does. -/
theorem mem_of_read {α : Type} {scanned : Option (α × List Char)} {set : α → Option Sheet}
    (h : ∀ x after, (x, after) ∈ scanned → c ∈ after) :
    ∀ r ∈ scanned.bind fun p => (set p.1).bind fun s => some (s, p.2), c ∈ r.2 := by
  refine forall_mem_bind fun p hp => forall_mem_bind fun s hs r hr => ?_
  rw [← Option.some.inj hr]
  exact h p.1 p.2 hp

/-- **A number leaves a foreign character where it is.** -/
theorem mem_of_partRead? (hc : IsForeign c) {p : Part} (hp : p.isNumeric = true) (hmem : c ∈ s) :
    ∀ r ∈ p.read? sheet s, c ∈ r.2 := by
  have htrim : c ∈ trimStart s := mem_trimStart hc.blank hmem
  cases p with
  | year => exact mem_of_read fun _ _ hscan => mem_of_scanYear? hc hscan htrim
  | millisecond =>
    exact @mem_of_read _ _ _ (fun n => sheet.setNanos (n * 1000000)) fun _ _ hscan =>
      mem_of_scanNumber? hc hscan hmem
  | fraction =>
    simp only [Part.read?]
    split
    · refine mem_of_read fun _ _ hscan => mem_of_scanFraction? hc hscan ?_
      exact hc.mem_of_mem_cons (by decide) hmem
    · rintro r ⟨⟩
      exact hmem
  | monthName long | weekdayName long | halfDay | offset => cases hp
  | _ => exact mem_of_read fun _ _ hscan => mem_of_scanNumber? hc hscan htrim

theorem mem_of_itemRead? (hc : IsForeign c) {item : Item} (hitem : item.isNumeric c = true)
    (hmem : c ∈ s) : ∀ r ∈ item.read? sheet s, c ∈ r.2 := by
  cases item with
  | part p => exact mem_of_partRead? hc hitem hmem
  | char d =>
    intro r hr
    rw [Item.read?] at hr
    split at hr
    · cases hr
      exact mem_trimStart hc.blank hmem
    · obtain ⟨after, hskip, rfl⟩ := Option.map_eq_some_iff.1 hr
      cases s with
      | nil => cases hskip
      | cons e s =>
        rw [skipChar?, Option.ite_none_right_eq_some] at hskip
        obtain ⟨rfl, hskip⟩ := hskip
        rw [← Option.some.inj hskip]
        exact (List.mem_cons.1 hmem).resolve_left fun h => bne_iff_ne.1 hitem h.symm

/-- **A row of numbers leaves a foreign character where it is.** -/
theorem mem_of_readAll? (hc : IsForeign c) (hitems : ∀ item ∈ items, item.isNumeric c = true)
    (hmem : c ∈ s) : ∀ r ∈ readAll? sheet s items, c ∈ r.2 := by
  induction items generalizing sheet s with
  | nil =>
    rintro r ⟨⟩
    exact hmem
  | cons item items ih =>
    refine forall_mem_bind fun r hr => ih (fun i hi => hitems i (List.mem_cons_of_mem _ hi)) ?_
    exact mem_of_itemRead? hc (hitems item List.mem_cons_self) hmem r hr

/-- **No text with a foreign character in it is read as a row of numbers.** -/
theorem readItems?_eq_none (hc : IsForeign c) (hitems : ∀ item ∈ items, item.isNumeric c = true)
    (hmem : c ∈ s) : readItems? items s = none := by
  rw [readItems?]
  split
  · next hread => cases mem_of_readAll? hc hitems hmem _ hread
  · rfl

end RecordFlow.Calendar
