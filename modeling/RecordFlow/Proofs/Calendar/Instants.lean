import RecordFlow.Proofs.Calendar.DayNumbers

/-!
# Instants and moments

An instant is seen as a date and a time of day, and these lead back to the instant
(`Instant.toInstant_moment`).

The instants that the readers give are *regular*: the nanoseconds of one of them go on beyond a
second only where the second is the last of its minute.  That is what makes it possible to write
a leap second as second sixty.  An instant can be written without a sign before its year if it
lies in the years from zero to 9999, which are so many seconds before and after 1970
(`Instant.hasPlainYear_iff`).

## Main definitions

* `Instant.IsRegular` — an instant whose leap second, if it is in one, ends a minute.
* `Instant.HasPlainYear` — the year of an instant has four digits and no sign.
* `Instant.atMillis` — the instant of a number of milliseconds, in the calendar or not.
-/

namespace RecordFlow.Calendar

variable {t : Instant} {n : Int}

/-! ### Moments -/

/-- What a moment leads back to, as its date does. -/
theorem Moment.toInstant_ofDays (days : Int) (hour minute second nanos : Nat) :
    (Moment.mk (.ofDays days) hour minute second nanos).toInstant 0 =
      ⟨days * 86400 + (hour * 3600 + minute * 60 + second : Nat), nanos⟩ := by
  rw [Moment.toInstant, Date.toDays_ofDays, Int.sub_zero]
  rfl

namespace Instant

/-- The second of the day that an instant is in. -/
theorem seconds_eq (t : Instant) :
    t.seconds = t.days * 86400 +
      (t.moment.hour * 3600 + t.moment.minute * 60 + t.moment.second : Nat) := by
  show t.seconds = t.seconds / 86400 * 86400 +
    ((t.seconds % 86400).toNat / 3600 * 3600 + (t.seconds % 86400).toNat / 60 % 60 * 60 +
      (t.seconds % 86400).toNat % 60 : Nat)
  omega

theorem hour_moment_le (t : Instant) : t.moment.hour ≤ 23 := by
  show (t.seconds % 86400).toNat / 3600 ≤ 23
  omega

theorem minute_moment_le (t : Instant) : t.moment.minute ≤ 59 := by
  show (t.seconds % 86400).toNat / 60 % 60 ≤ 59
  omega

theorem second_moment (t : Instant) : (t.moment.second : Int) = t.seconds % 60 := by
  show (((t.seconds % 86400).toNat % 60 : Nat) : Int) = t.seconds % 60
  omega

/-- **A moment leads back to its instant.** -/
theorem toInstant_moment (t : Instant) : t.moment.toInstant 0 = t := by
  have hmoment : t.moment =
      ⟨.ofDays t.days, t.moment.hour, t.moment.minute, t.moment.second, t.nanos⟩ := rfl
  rw [hmoment, Moment.toInstant_ofDays, ← seconds_eq]

/-! ### Regular instants -/

/-- **An instant whose leap second ends a minute,** if it is in a leap second.  Every instant
that is read from a text is of this kind, and no other one could be written with a second
sixty. -/
structure IsRegular (t : Instant) : Prop where
  nanos_lt : t.nanos < 2 * nanosPerSecond
  leap : nanosPerSecond ≤ t.nanos → t.seconds % 60 = 59

/-! ### Years of four digits -/

/-- **The year of an instant has four digits and no sign.**  In other years the standard form
begins with a sign, which no reader of it takes; so this is the condition for what is written to
be read again. -/
def HasPlainYear (t : Instant) : Prop :=
  0 ≤ t.moment.date.year ∧ t.moment.date.year ≤ 9999

instance : Decidable t.HasPlainYear :=
  inferInstanceAs (Decidable (0 ≤ t.moment.date.year ∧ t.moment.date.year ≤ 9999))

/-- **The years of four digits** last from the beginning of the year zero to the end of 9999. -/
theorem hasPlainYear_iff :
    t.HasPlainYear ↔ -62167219200 ≤ t.seconds ∧ t.seconds < 253402300800 := by
  have hfirst := Date.le_year_ofDays_iff 0 t.days
  have hlast := Date.le_year_ofDays_iff 10000 t.days
  have hzero : (Date.mk 0 1 1).toDays = -719528 := by decide
  have hend : (Date.mk 10000 1 1).toDays = 2932897 := by decide
  have hdays : t.days = t.seconds / 86400 := rfl
  show 0 ≤ (Date.ofDays t.days).year ∧ (Date.ofDays t.days).year ≤ 9999 ↔ _
  rw [hzero] at hfirst
  rw [hend] at hlast
  omega

/-- The years of four digits are in the calendar. -/
theorem HasPlainYear.inYears (h : t.HasPlainYear) :
    leastYear ≤ t.moment.date.year ∧ t.moment.date.year ≤ greatestYear := by
  obtain ⟨hzero, hend⟩ := h
  rw [leastYear, greatestYear]
  omega

theorem HasPlainYear.isValid (h : t.HasPlainYear) : t.isValid = true :=
  (inCalendar_iff t.days).2 h.inYears

/-- The date of an instant in years of four digits is one of the calendar. -/
theorem HasPlainYear.ofYmd? (h : t.HasPlainYear) :
    Date.ofYmd? t.moment.date.year t.moment.date.month t.moment.date.day = some t.moment.date :=
  Date.ofYmd?_ofDays h.inYears.1 h.inYears.2

/-! ### Milliseconds -/

/-- **The instant of a number of milliseconds since 1970,** in the calendar or not.  The step
only makes an instant of a number in the calendar; this is what that instant is. -/
def atMillis (millis : Int) : Instant :=
  ⟨millis / 1000, ((millis % 1000) * 1000000).toNat⟩

theorem ofMillis?_eq (millis : Int) :
    ofMillis? millis = if (atMillis millis).isValid then some (atMillis millis) else none := rfl

theorem seconds_atMillis (n : Int) : (atMillis n).seconds = n / 1000 := rfl

/-- The years of four digits, in milliseconds. -/
theorem hasPlainYear_atMillis_iff :
    (atMillis n).HasPlainYear ↔ -62167219200000 ≤ n ∧ n < 253402300800000 := by
  rw [hasPlainYear_iff, seconds_atMillis]
  omega

theorem HasPlainYear.ofMillis? (h : (atMillis n).HasPlainYear) :
    Instant.ofMillis? n = some (atMillis n) := by
  rw [ofMillis?_eq, if_pos h.isValid]

theorem nanos_atMillis_lt (n : Int) : (atMillis n).nanos < nanosPerSecond := by
  show (n % 1000 * 1000000).toNat < 1000000000
  omega

theorem isRegular_atMillis (n : Int) : (atMillis n).IsRegular where
  nanos_lt := Nat.lt_trans (nanos_atMillis_lt n) (by decide)
  leap h := absurd (nanos_atMillis_lt n) (Nat.not_lt.2 h)

/-- Different numbers of milliseconds are different instants. -/
theorem atMillis_injective : Function.Injective atMillis := by
  intro n m h
  obtain ⟨hseconds, hnanos⟩ := Instant.mk.inj h
  omega

end Instant

end RecordFlow.Calendar
