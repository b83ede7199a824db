import RecordFlow.Proofs.Calendar.Instants
import RecordFlow.Proofs.Calendar.Numbers

/-!
# Fields of a date, read back

A date and a time of day have seven fields, each of which is written in a fixed number of digits
(`Field.render_eq`).  Each is read back as it was written, whatever has been read before it and
whatever follows it (`Field.read?_render`).

The sheet of a reader does not remember in which order it was filled in.  So what has been read
of a moment is a matter of which fields have been read (`Sheet.of`), and so is what the sheet
resolves to: a date needs the three fields of it, and a time of day needs the hour and the
minute (`Sheet.moment?_of`); a sheet with an hour alone resolves to no moment
(`Sheet.moment?_of_notMem`).

## Main definitions

* `Field` — a field of a date and a time of day, with its `part`, `width` and `value`.
* `Moment.IsProper` — a moment whose fields can be written and read back.
* `Sheet.of` — the sheet with some fields of a moment on it.
* `Moment.upTo` — what is left of a moment if only some of its fields are kept.
-/

namespace RecordFlow.Calendar

open Text

/-- **A field of a date and a time of day.**  These are the fields whose numbers settle an
instant; names of months and days, halves of days and offsets are left out. -/
inductive Field where
  | year
  | month
  | day
  | hour
  | minute
  | second
  | millisecond
deriving DecidableEq

variable {m : Moment} {fields : List Field} {sheet sheet' : Sheet} {n : Nat}
variable {rest : List Char}

namespace Field

/-- The part of a pattern that stands for a field in all its digits. -/
def part : Field → Part
  | year => .year
  | month => .month true
  | day => .day true
  | hour => .hour true
  | minute => .minute true
  | second => .second true
  | millisecond => .millisecond

/-- How many digits a field is written with. -/
def width : Field → Nat
  | year => 4
  | millisecond => 3
  | _ => 2

/-- The number that is written for a field; a leap second is written as the sixtieth. -/
def value (m : Moment) : Field → Nat
  | year => m.date.year.toNat
  | month => m.date.month
  | day => m.date.day
  | hour => m.hour
  | minute => m.minute
  | second => m.second + m.nanos / nanosPerSecond
  | millisecond => m.nanos % nanosPerSecond / 1000000

end Field

/-! ### Proper moments -/

/-- **A moment whose fields can be written and read back:** its date is one of the calendar, in
a year of four digits, and its leap second, if it is in one, ends a minute. -/
structure Moment.IsProper (m : Moment) : Prop where
  ofYmd? : Date.ofYmd? m.date.year m.date.month m.date.day = some m.date
  year_mem : 0 ≤ m.date.year ∧ m.date.year ≤ 9999
  hour_le : m.hour ≤ 23
  minute_le : m.minute ≤ 59
  second_le : m.second ≤ 59
  nanos_lt : m.nanos < 2 * 1000000000
  leap : 1000000000 ≤ m.nanos → m.second = 59

/-- The date of a regular instant in years of four digits can be written and read back. -/
theorem Instant.IsRegular.isProper {t : Instant} (h : t.IsRegular) (hyear : t.HasPlainYear) :
    t.moment.IsProper where
  ofYmd? := hyear.ofYmd?
  year_mem := hyear
  hour_le := t.hour_moment_le
  minute_le := t.minute_moment_le
  second_le := by
    have hsecond := t.second_moment
    omega
  nanos_lt := h.nanos_lt
  leap hnanos := by
    have hsecond := t.second_moment
    have hleap := h.leap hnanos
    omega

namespace Moment.IsProper

/-- The month and the day are in range. -/
theorem month_day_mem (h : m.IsProper) :
    (1 ≤ m.date.month ∧ m.date.month ≤ 12) ∧ 1 ≤ m.date.day ∧ m.date.day ≤ 31 := by
  have hdate := h.ofYmd?
  rw [Date.ofYmd?] at hdate
  split at hdate
  · next hrange =>
    obtain ⟨-, -, hmonth, hmonth', hday, hday'⟩ := hrange
    have hlength : daysInMonth m.date.year m.date.month ≤ 31 := by
      rw [daysInMonth]
      split
      · split <;> decide
      · split <;> decide
    exact ⟨⟨hmonth, hmonth'⟩, hday, hday'.trans hlength⟩
  · cases hdate

/-- Second sixty is that of a leap second. -/
theorem second_mem (h : m.IsProper) :
    m.second + m.nanos / nanosPerSecond ≤ 60 ∧
      min (m.second + m.nanos / nanosPerSecond) 59 = m.second ∧
      (m.second + m.nanos / nanosPerSecond = 60 ↔ 1000000000 ≤ m.nanos) := by
  obtain ⟨-, -, -, -, hsecond, hnanos, hleap⟩ := h
  rw [nanosPerSecond]
  omega

/-- **Every field fits in its digits.** -/
theorem value_lt (h : m.IsProper) (f : Field) : f.value m < 10 ^ f.width := by
  obtain ⟨⟨-, hmonth⟩, -, hday⟩ := h.month_day_mem
  cases f with
  | year =>
    have hyear := h.year_mem
    show m.date.year.toNat < 10000
    omega
  | month => exact hmonth.trans_lt (by decide)
  | day => exact hday.trans_lt (by decide)
  | hour => exact h.hour_le.trans_lt (by decide)
  | minute => exact h.minute_le.trans_lt (by decide)
  | second => exact h.second_mem.1.trans_lt (by decide)
  | millisecond =>
    show m.nanos % 1000000000 / 1000000 < 1000
    omega

end Moment.IsProper

/-- **A field is written in its digits.** -/
theorem Field.render_eq (h : m.IsProper) (f : Field) :
    f.part.render m = padded f.width (f.value m) := by
  cases f with
  | year => exact if_pos h.year_mem
  | _ => rfl

/-! ### Sheets -/

/-- **The sheet with some fields of a moment on it.**  A reader puts down one field after the
other, and the sheet does not remember in which order. -/
def Sheet.of (m : Moment) (fields : List Field) : Sheet where
  year := if .year ∈ fields then some m.date.year else none
  month := if .month ∈ fields then some m.date.month else none
  day := if .day ∈ fields then some m.date.day else none
  afterNoon := if .hour ∈ fields then some (decide (12 ≤ m.hour)) else none
  hourOfHalf := if .hour ∈ fields then some (m.hour % 12) else none
  minute := if .minute ∈ fields then some m.minute else none
  second := if .second ∈ fields then some (Field.second.value m) else none
  nanos := if .millisecond ∈ fields then some (Field.millisecond.value m * 1000000) else none

/-- The order of the fields does not matter. -/
theorem Sheet.of_congr {others : List Field} (h : ∀ f, f ∈ fields ↔ f ∈ others) :
    Sheet.of m fields = Sheet.of m others := by
  simp only [Sheet.of, h]

/-- What is said again is the same as before. -/
theorem agree_ite {α : Type} [DecidableEq α] (p : Prop) [Decidable p] (x : α) :
    agree (if p then some x else none) x = some (some x) := by
  split
  · exact if_pos rfl
  · rfl

/-- Put down a field of a moment. -/
def Field.set? (m : Moment) (sheet : Sheet) : Field → Option Sheet
  | year => sheet.setYear m.date.year
  | month => sheet.setMonth m.date.month
  | day => sheet.setDay m.date.day
  | hour => sheet.setHour m.hour
  | minute => sheet.setMinute m.minute
  | second => sheet.setSecond (second.value m)
  | millisecond => sheet.setNanos (millisecond.value m * 1000000)

/-- **A field that is put down is on the sheet,** with those that were. -/
theorem Field.set?_of (h : m.IsProper) (f : Field) :
    f.set? m (Sheet.of m fields) = some (Sheet.of m (f :: fields)) := by
  obtain ⟨hmonth, hday⟩ := h.month_day_mem
  cases f with
  | year => simp [Field.set?, Sheet.setYear, Sheet.of, agree_ite]
  | month => simp [Field.set?, Sheet.setMonth, Sheet.of, agree_ite, within, hmonth]
  | day => simp [Field.set?, Sheet.setDay, Sheet.of, agree_ite, within, hday]
  | hour =>
    simp [Field.set?, Sheet.setHour, Sheet.setHalf, Sheet.of, agree_ite, within, h.hour_le]
  | minute => simp [Field.set?, Sheet.setMinute, Sheet.of, agree_ite, within, h.minute_le]
  | second =>
    have hsecond : Field.second.value m ≤ 60 := h.second_mem.1
    simp [Field.set?, Sheet.setSecond, Sheet.of, agree_ite, within, hsecond]
  | millisecond => simp [Field.set?, Sheet.setNanos, Sheet.of, agree_ite]

/-! ### What is written is read back -/

/-- White space before a number is skipped, and there is none before its digits. -/
theorem trimStart_padded (width n : Nat) (rest : List Char) :
    trimStart (padded width n ++ rest) = padded width n ++ rest := by
  obtain ⟨c, digits, hcons, hdigit⟩ := exists_padded_eq_cons width n
  rw [hcons, List.cons_append]
  have hblank := isBlank_of_isDecimalDigit (isDecimalDigit_of_isAsciiDigit hdigit)
  exact trimStart_cons_of_not_blank hblank _

/-- A character is skipped where it was written. -/
theorem skipChar?_cons (c : Char) (s : List Char) : skipChar? c (c :: s) = some s :=
  if_pos rfl

theorem scanYear?_padded (hn : n < 10000) :
    scanYear? (padded 4 n ++ rest) = some ((n : Int), rest) := by
  have hscan : scanNumber? 1 4 (padded 4 n ++ rest) = some (n, rest) :=
    scanNumber?_padded (by decide) hn (by decide) (by decide) (fun h => absurd h (by decide))
  obtain ⟨c, digits, hcons, hdigit⟩ := exists_padded_eq_cons 4 n
  rw [hcons, List.cons_append] at hscan ⊢
  unfold scanYear?
  split
  · next heq =>
    cases heq
    cases hdigit
  · next heq =>
    cases heq
    cases hdigit
  · rw [hscan]
    rfl

theorem readSmall?_padded {set : Sheet → Nat → Option Sheet} (hn : n < 100)
    (hset : set sheet n = some sheet') :
    readSmall? sheet set (padded 2 n ++ rest) = some (sheet', rest) := by
  have hscan : scanNumber? 1 2 (padded 2 n ++ rest) = some (n, rest) :=
    scanNumber?_padded (by decide) hn (by decide) (by decide) (fun h => absurd h (by decide))
  simp only [readSmall?, trimStart_padded, hscan, bind, Option.bind_some, hset, pure]

/-- **A field is read back as it was written,** whatever is on the sheet of the moment already
and whatever follows. -/
theorem Field.read?_render (h : m.IsProper) (f : Field) :
    f.part.read? (Sheet.of m fields) (f.part.render m ++ rest) =
      some (Sheet.of m (f :: fields), rest) := by
  have hset : f.set? m (Sheet.of m fields) = some (Sheet.of m (f :: fields)) := f.set?_of h
  have hlt := h.value_lt f
  rw [f.render_eq h]
  cases f with
  | year =>
    have hyear : ((Field.year.value m : Nat) : Int) = m.date.year :=
      Int.toNat_of_nonneg h.year_mem.1
    have hset : (Sheet.of m fields).setYear m.date.year = some (Sheet.of m (.year :: fields)) :=
      hset
    simp only [Field.part, Part.read?, Field.width, trimStart_padded, scanYear?_padded hlt, hyear,
      hset, bind, Option.bind_some, pure]
  | millisecond =>
    have hscan : scanNumber? 3 3 (padded 3 (Field.millisecond.value m) ++ rest) =
        some (Field.millisecond.value m, rest) :=
      scanNumber?_padded (by decide) hlt (by decide) (by decide) (fun h => absurd h (by decide))
    have hset : (Sheet.of m fields).setNanos (Field.millisecond.value m * 1000000) =
      some (Sheet.of m (.millisecond :: fields)) := hset
    simp only [Field.part, Part.read?, Field.width, hscan, hset, bind, Option.bind_some, pure]
  | _ => exact readSmall?_padded hlt hset

/-! ### What a sheet resolves to -/

/-- **What is left of a moment,** if only some of its fields below the minute are kept.  The
fields that are not put down are read as zero. -/
def Moment.upTo (m : Moment) (fields : List Field) : Moment :=
  ⟨m.date, m.hour, m.minute, if .second ∈ fields then m.second else 0,
    if .millisecond ∈ fields then m.nanos / 1000000 * 1000000
    else if .second ∈ fields then m.nanos / nanosPerSecond * nanosPerSecond else 0⟩

theorem Sheet.date?_of (h : m.IsProper) (hyear : .year ∈ fields) (hmonth : .month ∈ fields)
    (hday : .day ∈ fields) : (Sheet.of m fields).date? = some m.date := by
  simp [Sheet.date?, Sheet.fullYear?, Sheet.of, hyear, hmonth, hday, h.ofYmd?]

/-- **A sheet with a date, an hour and a minute resolves to the moment,** up to the finest of
its fields. -/
theorem Sheet.moment?_of (h : m.IsProper) (hdate : (Sheet.of m fields).date? = some m.date)
    (hhour : .hour ∈ fields) (hminute : .minute ∈ fields)
    (hfine : .millisecond ∈ fields → .second ∈ fields) :
    (Sheet.of m fields).moment? = some (m.upTo fields) := by
  have hone : nanosPerSecond = 1000000000 := rfl
  obtain ⟨-, hsecond, hsixty⟩ := h.second_mem
  rw [hone] at hsecond hsixty
  have hhalf : (if 12 ≤ m.hour then 12 else 0) + m.hour % 12 = m.hour := by
    have hle := h.hour_le
    split <;> omega
  have hnanos := h.nanos_lt
  have hwhole : (if 1000000000 ≤ m.nanos then 1000000000 else 0) =
      m.nanos / 1000000000 * 1000000000 := by
    split <;> omega
  have hparts : m.nanos % 1000000000 / 1000000 * 1000000 + m.nanos / 1000000000 * 1000000000 =
      m.nanos / 1000000 * 1000000 := by
    omega
  simp only [Sheet.moment?, hdate]
  by_cases hseconds : Field.second ∈ fields
  · by_cases hmillis : Field.millisecond ∈ fields
    · simp [Sheet.of, hhour, hminute, hseconds, hmillis, Moment.upTo, Field.value, hone,
        hsecond, hsixty, hhalf, hwhole, hparts]
    · simp [Sheet.of, hhour, hminute, hseconds, hmillis, Moment.upTo, Field.value, hone,
        hsecond, hsixty, hhalf, hwhole]
  · have hmillis : Field.millisecond ∉ fields := fun hmem => hseconds (hfine hmem)
    simp [Sheet.of, hhour, hminute, hseconds, hmillis, Moment.upTo, hhalf]

/-- **A sheet without a minute resolves to no moment.** -/
theorem Sheet.moment?_of_notMem (hminute : .minute ∉ fields) :
    (Sheet.of m fields).moment? = none := by
  have hnone : (Sheet.of m fields).minute = none := if_neg hminute
  simp only [Sheet.moment?, hnone, bind, Option.bind_none]
  rw [Option.bind_eq_none_iff]
  intro date _
  rw [Option.bind_eq_none_iff]
  intro after _
  rw [Option.bind_eq_none_iff]
  exact fun _ _ => rfl

end RecordFlow.Calendar
