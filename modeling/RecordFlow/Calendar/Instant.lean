import RecordFlow.Calendar.Date
import RecordFlow.Number.Power

/-!
# Instants

An instant is a number of seconds since the beginning of 1970, without leap seconds,
and a number of nanoseconds.  During a leap second the nanoseconds go on counting
through a second thousand million, so that it is written as second sixty.

## Main definitions

* `Instant` — a point in time.
* `Instant.ofMillis?` — the instant of a number of milliseconds since 1970.
* `Moment` — a date and a time of day.
* `Moment.toInstant`, `Instant.moment` — the two seen as each other.
-/

namespace RecordFlow.Calendar

/-- **A point in time.** -/
structure Instant where
  /-- Seconds since the beginning of 1970. -/
  seconds : Int
  /-- Nanoseconds; a thousand million or more during a leap second. -/
  nanos : Nat
deriving DecidableEq

/-- **A date and a time of day.** -/
structure Moment where
  /-- The date. -/
  date : Date
  /-- The hour, from zero to twenty-three. -/
  hour : Nat
  /-- The minute. -/
  minute : Nat
  /-- The second, from zero to fifty-nine. -/
  second : Nat
  /-- Nanoseconds; a thousand million or more during a leap second. -/
  nanos : Nat
deriving DecidableEq

/-- The seconds of a day. -/
def secondsPerDay : Int := 86400

/-- The nanoseconds of a second. -/
def nanosPerSecond : Nat := 10 ^ 9

/-- Whether a day number lies in the years of the calendar. -/
def inCalendar (days : Int) : Bool :=
  (Date.mk leastYear 1 1).toDays ≤ days && days ≤ (Date.mk greatestYear 12 31).toDays

namespace Instant

/-- The number of the day. -/
def days (t : Instant) : Int :=
  t.seconds / secondsPerDay

/-- Whether the instant lies in the years of the calendar. -/
def isValid (t : Instant) : Bool :=
  inCalendar t.days

/-- **The instant of a number of milliseconds since 1970,** if it lies in the years of
the calendar. -/
def ofMillis? (millis : Int) : Option Instant :=
  let t : Instant := ⟨millis / 1000, ((millis % 1000) * 1000000).toNat⟩
  if t.isValid then some t else none

/-- **The date and time of day of an instant.** -/
def moment (t : Instant) : Moment :=
  let s := (t.seconds % secondsPerDay).toNat
  ⟨.ofDays t.days, s / 3600, s / 60 % 60, s % 60, t.nanos⟩

end Instant

/-- **The instant of a date and time of day,** east of Greenwich by some seconds. -/
def Moment.toInstant (m : Moment) (offset : Int) : Instant :=
  ⟨m.date.toDays * secondsPerDay + (m.hour * 3600 + m.minute * 60 + m.second : Nat) - offset,
    m.nanos⟩

end RecordFlow.Calendar
