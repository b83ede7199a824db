import RecordFlow.Calendar.Instant

/-!
# Day numbers and dates

Every day number is the number of its date (`Date.toDays_ofDays`), and its date is one of the
calendar, if its year is (`Date.ofYmd?_ofDays`).  The years lie one after the other: a day is in
a year or a later one just if it does not come before the first of January of that year
(`Date.le_year_ofDays_iff`).

All of this hangs on the place of a day in its era of four hundred years.  An era has four
centuries of 36524 days and one day more, a century has leap cycles of 1461 days and is one day
short of twenty-five of them, and a leap cycle has four years of 365 days and one day more.  In
these terms the year of a day can be told (`yearOfEra_eq`), where the quotients that
`Date.ofDays` takes of the day alone cannot be compared with each other.

## Main definitions

* `yearOfEra`, `daysBefore` — the year of a day of an era, and the days before a year of one.
-/

namespace RecordFlow.Calendar

/-! ### Eras -/

/-- The year of a day of an era, years beginning in March. -/
def yearOfEra (dayOfEra : Int) : Int :=
  (dayOfEra - dayOfEra / 1460 + dayOfEra / 36524 - dayOfEra / 146096) / 365

/-- The number of days of an era before one of its years. -/
def daysBefore (year : Int) : Int :=
  365 * year + year / 4 - year / 100

/-- **The place of a day in its era:** its century, its leap cycle, its year of the cycle and
its day of the year.  The last day of a year is there in a leap year only, and the last leap
cycle of a century has it in the last century only. -/
structure PlaceInEra (dayOfEra century cycle year day : Int) : Prop where
  dayOfEra_eq : dayOfEra = 36524 * century + 1461 * cycle + 365 * year + day
  century_mem : 0 ≤ century ∧ century ≤ 3
  cycle_mem : 0 ≤ cycle ∧ cycle ≤ 24
  year_mem : 0 ≤ year ∧ year ≤ 3
  day_mem : 0 ≤ day ∧ day ≤ 365
  leap : day = 365 → year = 3 ∧ (cycle = 24 → century = 3)

/-- Every day has a place in its era. -/
theorem exists_placeInEra {dayOfEra : Int} (h : 0 ≤ dayOfEra) (hlt : dayOfEra < 146097) :
    ∃ century cycle year day, PlaceInEra dayOfEra century cycle year day := by
  -- the day that an era and a leap cycle have over is the last one of their last part
  obtain ⟨century, hcentury⟩ : ∃ century, century = min 3 (dayOfEra / 36524) := ⟨_, rfl⟩
  obtain ⟨dayOfCentury, hdayOfCentury⟩ : ∃ d, d = dayOfEra - 36524 * century := ⟨_, rfl⟩
  obtain ⟨cycle, hcycle⟩ : ∃ cycle, cycle = dayOfCentury / 1461 := ⟨_, rfl⟩
  obtain ⟨year, hyear⟩ : ∃ year, year = min 3 (dayOfCentury % 1461 / 365) := ⟨_, rfl⟩
  refine ⟨century, cycle, year, dayOfCentury % 1461 - 365 * year, ?_, ?_, ?_, ?_, ?_, ?_⟩ <;> omega

namespace PlaceInEra

variable {dayOfEra century cycle year day : Int}

/-- **The year of a day of an era.**  The first quotient counts a leap cycle too many for some
of the days of its last year, which does not matter there. -/
theorem yearOfEra_eq (h : PlaceInEra dayOfEra century cycle year day) :
    yearOfEra dayOfEra = 100 * century + 4 * cycle + year := by
  obtain ⟨hday, hcentury, hcycle, hyear, hrange, hleap⟩ := h
  have hcenturies : dayOfEra / 36524 - dayOfEra / 146096 = century := by
    by_cases hlast : dayOfEra = 146096
    · omega
    · have hdayOfCentury : 1461 * cycle + 365 * year + day < 36524 := by
        by_cases hend : day = 365 <;> omega
      omega
  have hcycles : dayOfEra / 1460 = 25 * century + cycle ∨
      dayOfEra / 1460 = 25 * century + cycle + 1 := by omega
  rw [yearOfEra]
  omega

theorem daysBefore_eq (h : PlaceInEra dayOfEra century cycle year day) :
    daysBefore (100 * century + 4 * cycle + year) = dayOfEra - day := by
  obtain ⟨hday, hcentury, hcycle, hyear, -, -⟩ := h
  rw [daysBefore]
  omega

end PlaceInEra

/-- **The year of a day of an era,** the day of that year, and which of those years have a day
at their end that the others do not have.  As years begin in March here, that is the leap day of
the year that follows. -/
theorem yearOfEra_spec {dayOfEra : Int} (h : 0 ≤ dayOfEra) (hlt : dayOfEra < 146097) :
    0 ≤ yearOfEra dayOfEra ∧ yearOfEra dayOfEra < 400 ∧
      0 ≤ dayOfEra - daysBefore (yearOfEra dayOfEra) ∧
      dayOfEra - daysBefore (yearOfEra dayOfEra) ≤ 365 ∧
      (dayOfEra - daysBefore (yearOfEra dayOfEra) = 365 →
        isLeapYear (yearOfEra dayOfEra + 1) = true) := by
  obtain ⟨century, cycle, year, day, hplace⟩ := exists_placeInEra h hlt
  have hday : dayOfEra - (dayOfEra - day) = day := by omega
  rw [hplace.yearOfEra_eq, hplace.daysBefore_eq, hday]
  obtain ⟨-, hcentury, hcycle, hyear, hrange, hleap⟩ := hplace
  refine ⟨by omega, by omega, hrange.1, hrange.2, fun hlast => ?_⟩
  simp only [isLeapYear, Bool.and_eq_true, Bool.or_eq_true, beq_iff_eq, bne_iff_ne]
  omega

/-! ### Dates -/

/-- Leap years recur with the eras. -/
theorem isLeapYear_add_eras (year eras : Int) :
    isLeapYear (year + eras * 400) = isLeapYear year := by
  have h4 : (year + eras * 400) % 4 = year % 4 := by omega
  have h100 : (year + eras * 400) % 100 = year % 100 := by omega
  have h400 : (year + eras * 400) % 400 = year % 400 := by omega
  rw [isLeapYear, isLeapYear, h4, h100, h400]

/-- **The place of a day in the calendar:** its era, the year and the month of it, counted from
March and from zero, and the day of the month. -/
structure Place (days era year month day : Int) : Prop where
  days_eq : days + 719468 = 146097 * era + daysBefore year + (153 * month + 2) / 5 + day - 1
  year_mem : 0 ≤ year ∧ year < 400
  month_mem : 0 ≤ month ∧ month ≤ 11
  day_mem : 1 ≤ day ∧ (153 * month + 2) / 5 + day - 1 < (153 * (month + 1) + 2) / 5
  /-- The last month is the one that has a leap day or not. -/
  leap : month = 11 → day ≤ 29 ∧ (day = 29 → isLeapYear (year + 1) = true)

/-- The date with a place in the calendar. -/
def dateAt (era year month day : Int) : Date :=
  ⟨if month < 10 then year + era * 400 else year + era * 400 + 1,
    (if month < 10 then month + 3 else month - 9).toNat, day.toNat⟩

/-- **The date of a day is the one at its place.** -/
theorem exists_place (days : Int) :
    ∃ era year month day, Place days era year month day ∧
      Date.ofDays days = dateAt era year month day := by
  obtain ⟨dayOfEra, hdayOfEra⟩ : ∃ d, d = (days + 719468) % 146097 := ⟨_, rfl⟩
  have hera : 0 ≤ dayOfEra ∧ dayOfEra < 146097 := by omega
  obtain ⟨hyear, hyear', hday, hday', hleap⟩ := yearOfEra_spec hera.1 hera.2
  obtain ⟨year, hyearOfEra⟩ : ∃ year, year = yearOfEra dayOfEra := ⟨_, rfl⟩
  obtain ⟨dayOfYear, hdayOfYear⟩ : ∃ d, d = dayOfEra - daysBefore year := ⟨_, rfl⟩
  obtain ⟨month, hmonth⟩ : ∃ month, month = (5 * dayOfYear + 2) / 153 := ⟨_, rfl⟩
  rw [← hyearOfEra] at hyear hyear' hday hday' hleap
  rw [← hdayOfYear] at hday hday' hleap
  refine ⟨(days + 719468) / 146097, year, month, dayOfYear - (153 * month + 2) / 5 + 1, ?_, ?_⟩
  · refine ⟨by omega, ⟨hyear, hyear'⟩, by omega, by omega, fun hlast => ⟨by omega, ?_⟩⟩
    intro hend
    exact hleap (by omega)
  · obtain ⟨calendarMonth, hcalendar⟩ : ∃ m, m = if month < 10 then month + 3 else month - 9 :=
      ⟨_, rfl⟩
    have hdate : Date.ofDays days =
        ⟨if calendarMonth ≤ 2 then year + (days + 719468) / 146097 * 400 + 1
          else year + (days + 719468) / 146097 * 400,
          calendarMonth.toNat, (dayOfYear - (153 * month + 2) / 5 + 1).toNat⟩ := by
      rw [hcalendar, hmonth, hdayOfYear, hyearOfEra, hdayOfEra]
      rfl
    rw [hdate, dateAt, ← hcalendar]
    congr 1
    split <;> split <;> omega

namespace Place

variable {days era year month day : Int}

/-- The date at the place of a day has the number of that day. -/
theorem toDays_dateAt (h : Place days era year month day) :
    (dateAt era year month day).toDays = days := by
  obtain ⟨hdays, hyear, hmonth, hday, -⟩ := h
  rw [daysBefore] at hdays
  rw [Date.toDays, dateAt]
  by_cases hpast : month < 10
  · simp only [if_pos hpast]
    have hcount : (((month + 3).toNat : Int) + 9) % 12 = month := by omega
    rw [if_neg (by omega), hcount]
    omega
  · simp only [if_neg hpast]
    have hcount : (((month - 9).toNat : Int) + 9) % 12 = month := by omega
    rw [if_pos (by omega), hcount]
    omega

/-- The month of the date at the place of a day is one of the calendar. -/
theorem month_dateAt_mem (h : Place days era year month day) :
    1 ≤ (dateAt era year month day).month ∧ (dateAt era year month day).month ≤ 12 := by
  have hmonth := h.month_mem
  simp only [dateAt]
  split <;> omega

/-- The day of the date at the place of a day is one of its month. -/
theorem day_dateAt_mem (h : Place days era year month day) :
    1 ≤ (dateAt era year month day).day ∧
      (dateAt era year month day).day ≤
        daysInMonth (dateAt era year month day).year (dateAt era year month day).month := by
  obtain ⟨-, -, hmonth, ⟨hday, hnext⟩, hleap⟩ := h
  simp only [dateAt]
  refine ⟨by omega, ?_⟩
  by_cases hlast : month = 11
  · obtain ⟨hfebruary, hend⟩ := hleap hlast
    have hyear : isLeapYear (year + era * 400 + 1) = isLeapYear (year + 1) := by
      rw [show year + era * 400 + 1 = year + 1 + era * 400 by omega, isLeapYear_add_eras]
    subst hlast
    show day.toNat ≤ if isLeapYear (year + era * 400 + 1) = true then 29 else 28
    rw [hyear]
    split
    · omega
    · next hcommon =>
      have hshort : day ≠ 29 := fun hday => hcommon (hend hday)
      omega
  · by_cases hpast : month < 10
    · rw [if_pos hpast, if_pos hpast, daysInMonth, if_neg (by omega)]
      split <;> omega
    · rw [if_neg hpast, if_neg hpast, daysInMonth, if_neg (by omega)]
      split <;> omega

end Place

/-- **Every day number is the number of its date.** -/
theorem Date.toDays_ofDays (days : Int) : (Date.ofDays days).toDays = days := by
  obtain ⟨era, year, month, day, hplace, hdate⟩ := exists_place days
  rw [hdate, hplace.toDays_dateAt]

/-- **The date of a day number is one of the calendar,** if its year is. -/
theorem Date.ofYmd?_ofDays {days : Int} (hleast : leastYear ≤ (Date.ofDays days).year)
    (hgreatest : (Date.ofDays days).year ≤ greatestYear) :
    Date.ofYmd? (Date.ofDays days).year (Date.ofDays days).month (Date.ofDays days).day =
      some (Date.ofDays days) := by
  obtain ⟨era, year, month, day, hplace, hdate⟩ := exists_place days
  rw [hdate] at hleast hgreatest ⊢
  obtain ⟨hmonth, hmonth'⟩ := hplace.month_dateAt_mem
  obtain ⟨hday, hday'⟩ := hplace.day_dateAt_mem
  exact if_pos ⟨hleast, hgreatest, hmonth, hmonth', hday, hday'⟩

/-! ### Years -/

/-- The number of the first day of a year. -/
theorem Date.toDays_newYear (year : Int) :
    (Date.mk year 1 1).toDays =
      (year - 1) / 400 * 146097 + daysBefore ((year - 1) % 400) + 306 - 719468 := by
  rw [Date.toDays, daysBefore]
  simp only
  omega

/-- **The years lie one after the other:** a day is in a year or a later one just if it does not
come before the first day of that year. -/
theorem Date.le_year_ofDays_iff (year days : Int) :
    year ≤ (Date.ofDays days).year ↔ (Date.mk year 1 1).toDays ≤ days := by
  obtain ⟨era, yearOfEra, month, day, hplace, hdate⟩ := exists_place days
  obtain ⟨hdays, hyear, hmonth, hday, hleap⟩ := hplace
  rw [hdate, Date.toDays_newYear, dateAt]
  rw [daysBefore] at hdays ⊢
  simp only
  split <;> omega

/-- **The days of the calendar are those of its years.** -/
theorem inCalendar_iff (days : Int) :
    inCalendar days = true ↔
      leastYear ≤ (Date.ofDays days).year ∧ (Date.ofDays days).year ≤ greatestYear := by
  have hend :
      (Date.mk greatestYear 12 31).toDays + 1 = (Date.mk (greatestYear + 1) 1 1).toDays := by
    decide
  have hgreatest := Date.le_year_ofDays_iff (greatestYear + 1) days
  rw [inCalendar, Bool.and_eq_true, decide_eq_true_eq, decide_eq_true_eq, Date.le_year_ofDays_iff]
  omega

end RecordFlow.Calendar
