import RecordFlow.Calendar.Rendering
import RecordFlow.Number.Numeral
import RecordFlow.Text.Search

/-!
# Reading dates

A text is read item by item into a sheet that holds what has been said of the date so
far.  A thing said twice must be the same both times, and every number must be in the
range of its part.  At the end the sheet is resolved: to an instant if it has an
offset, and otherwise to a date with or without a time of day.

Numbers may have fewer digits than their part is written with; white space in a pattern
matches any white space, and there may be white space before every number and offset.

## Main definitions

* `Sheet` — what has been said of a date.
* `readItems?` — the sheet of a text by the items of a pattern.
* `Sheet.date?`, `Sheet.moment?`, `Sheet.instant?` — what a sheet resolves to.
* `readRfc3339?`, `readRfc2822?` — the two standard forms of the mail and the net.
* `readByPattern?`, `readAny?` — the instant that a text stands for.
-/

namespace RecordFlow.Calendar

/-- **What has been said of a date.** -/
structure Sheet where
  year : Option Int := none
  yearOfCentury : Option Nat := none
  month : Option Nat := none
  day : Option Nat := none
  weekday : Option Nat := none
  afterNoon : Option Bool := none
  hourOfHalf : Option Nat := none
  minute : Option Nat := none
  second : Option Nat := none
  nanos : Option Nat := none
  offset : Option Int := none

/-- Put down a datum, unless another one stands there. -/
def agree {α : Type} [DecidableEq α] (old : Option α) (new : α) : Option (Option α) :=
  match old with
  | none => some (some new)
  | some x => if x = new then some (some x) else none

/-- A number within bounds. -/
def within (least greatest n : Nat) : Option Nat :=
  if least ≤ n ∧ n ≤ greatest then some n else none

namespace Sheet

/-- Put down a year. -/
def setYear (s : Sheet) (n : Int) : Option Sheet := do
  return { s with year := ← agree s.year n }

/-- Put down the last two digits of a year. -/
def setYearOfCentury (s : Sheet) (n : Nat) : Option Sheet := do
  return { s with yearOfCentury := ← agree s.yearOfCentury (← within 0 99 n) }

/-- Put down a month. -/
def setMonth (s : Sheet) (n : Nat) : Option Sheet := do
  return { s with month := ← agree s.month (← within 1 12 n) }

/-- Put down a day of the month. -/
def setDay (s : Sheet) (n : Nat) : Option Sheet := do
  return { s with day := ← agree s.day (← within 1 31 n) }

/-- Put down a day of the week. -/
def setWeekday (s : Sheet) (n : Nat) : Option Sheet := do
  return { s with weekday := ← agree s.weekday n }

/-- Put down a half of the day. -/
def setHalf (s : Sheet) (after : Bool) : Option Sheet := do
  return { s with afterNoon := ← agree s.afterNoon after }

/-- Put down an hour of twenty-four: a half of the day and an hour of it. -/
def setHour (s : Sheet) (n : Nat) : Option Sheet := do
  let hour ← within 0 23 n
  let s ← s.setHalf (12 ≤ hour)
  return { s with hourOfHalf := ← agree s.hourOfHalf (hour % 12) }

/-- Put down an hour of twelve. -/
def setHourOfHalf (s : Sheet) (n : Nat) : Option Sheet := do
  let hour ← within 1 12 n
  return { s with hourOfHalf := ← agree s.hourOfHalf (hour % 12) }

/-- Put down a minute. -/
def setMinute (s : Sheet) (n : Nat) : Option Sheet := do
  return { s with minute := ← agree s.minute (← within 0 59 n) }

/-- Put down a second; the sixtieth is a leap second. -/
def setSecond (s : Sheet) (n : Nat) : Option Sheet := do
  return { s with second := ← agree s.second (← within 0 60 n) }

/-- Put down the fraction of a second. -/
def setNanos (s : Sheet) (n : Nat) : Option Sheet := do
  return { s with nanos := ← agree s.nanos n }

/-- Put down an offset. -/
def setOffset (s : Sheet) (seconds : Int) : Option Sheet := do
  return { s with offset := ← agree s.offset seconds }

end Sheet

/-! ### Scanning -/

/-- A number of at least `least` and at most `most` digits, and the rest. -/
def scanNumber? (least most : Nat) (s : List Char) : Option (Nat × List Char) :=
  let digits := (s.take most).takeWhile Text.isAsciiDigit
  if digits.length < least ∨ digits.isEmpty then none
  else some (digitsValue digits, s.drop digits.length)

/-- A number of any number of digits, at least `least`, and the rest. -/
def scanLongNumber? (least : Nat) (s : List Char) : Option (Nat × List Char) :=
  scanNumber? least s.length s

/-- A year: four digits, or any number of them after a sign. -/
def scanYear? : List Char → Option (Int × List Char)
  | '-' :: s => (scanLongNumber? 1 s).map fun (n, rest) => (-(n : Int), rest)
  | '+' :: s => (scanLongNumber? 1 s).map fun (n, rest) => ((n : Int), rest)
  | s => (scanNumber? 1 4 s).map fun (n, rest) => ((n : Int), rest)

/-- A fraction of a second in nanoseconds; digits beyond the ninth are passed over. -/
def scanFraction? (s : List Char) : Option (Nat × List Char) :=
  (scanNumber? 1 9 s).map fun (n, rest) =>
    (n * 10 ^ (9 - (s.length - rest.length)), rest.dropWhile Text.isAsciiDigit)

/-- An ASCII letter in lower case, and any other character as it is. -/
def lowerLetter (c : Char) : Char :=
  if 65 ≤ c.toNat ∧ c.toNat ≤ 90 then Char.ofNat (c.toNat + 32) else c

/-- What follows a word, written in any case. -/
def dropWord? (word s : List Char) : Option (List Char) :=
  if word.map lowerLetter = (s.take word.length).map lowerLetter then
    some (s.drop word.length)
  else none

/-- The place in a list of the name whose first three letters a text begins with, and
the rest; when `long` is set, the rest of the name is taken too if it is there. -/
def scanName? (names : List String) (long : Bool) (s : List Char) :
    Option (Nat × List Char) :=
  names.zipIdx.findSome? fun (name, index) =>
    (dropWord? (name.toList.take 3) s).map fun rest =>
      (index, if long then (dropWord? (name.toList.drop 3) rest).getD rest else rest)

/-- The half of the day that a text begins with, and the rest. -/
def scanHalf? (s : List Char) : Option (Bool × List Char) :=
  match dropWord? ['a', 'm'] s with
  | some rest => some (false, rest)
  | none => (dropWord? ['p', 'm'] s).map (true, ·)

/-- The sign of an offset, true for minus, and the rest.  The minus sign proper is
taken where `proper` is set. -/
def scanOffsetSign? (proper : Bool) : List Char → Option (Bool × List Char)
  | [] => none
  | c :: s =>
    if c = '+' then some (false, s)
    else if c = '-' then some (true, s)
    else if proper ∧ c.toNat = 0x2212 then some (true, s)
    else none

/-- An offset in seconds: a sign, two digits of hours, a separator that `skip` takes
away, and two digits of minutes. -/
def scanOffset? (proper : Bool) (skip : List Char → Option (List Char)) (s : List Char) :
    Option (Int × List Char) := do
  let (negative, s) ← scanOffsetSign? proper s
  let (hours, s) ← scanNumber? 2 2 s
  let (minutes, s) ← scanNumber? 2 2 (← skip s)
  let minutes ← within 0 59 minutes
  let seconds : Int := (hours * 3600 + minutes * 60 : Nat)
  return (if negative then -seconds else seconds, s)

/-- Colons and white space, any number of them, taken away. -/
def skipColons (s : List Char) : Option (List Char) :=
  some (s.dropWhile fun c => c == ':' || Text.isBlank c)

/-- At least one character of white space, taken away with all that follow it. -/
def skipBlanks? : List Char → Option (List Char)
  | [] => none
  | c :: s => if Text.isBlank c then some (Text.trimStart s) else none

/-- One character, taken away. -/
def skipChar? (c : Char) : List Char → Option (List Char)
  | [] => none
  | d :: s => if c = d then some s else none

/-! ### Reading by items -/

/-- Read a number of at most two digits, white space before it aside. -/
def readSmall? (sheet : Sheet) (set : Sheet → Nat → Option Sheet) (s : List Char) :
    Option (Sheet × List Char) := do
  let (n, rest) ← scanNumber? 1 2 (Text.trimStart s)
  return (← set sheet n, rest)

/-- **Read a part of a date.** -/
def Part.read? (sheet : Sheet) (s : List Char) : Part → Option (Sheet × List Char)
  | year => do
    let (n, rest) ← scanYear? (Text.trimStart s)
    return (← sheet.setYear n, rest)
  | yearOfCentury => readSmall? sheet Sheet.setYearOfCentury s
  | month _ => readSmall? sheet Sheet.setMonth s
  | monthName long => do
    let (index, rest) ← scanName? monthNames long s
    return (← sheet.setMonth (index + 1), rest)
  | day _ => readSmall? sheet Sheet.setDay s
  | hour _ => readSmall? sheet Sheet.setHour s
  | hourOfHalf _ => readSmall? sheet Sheet.setHourOfHalf s
  | minute _ => readSmall? sheet Sheet.setMinute s
  | second _ => readSmall? sheet Sheet.setSecond s
  | millisecond => do
    let (n, rest) ← scanNumber? 3 3 s
    return (← sheet.setNanos (n * 1000000), rest)
  | fraction =>
    match s with
    | '.' :: rest => do
      let (n, rest) ← scanFraction? rest
      return (← sheet.setNanos n, rest)
    | _ => some (sheet, s)
  | halfDay => do
    let (after, rest) ← scanHalf? s
    return (← sheet.setHalf after, rest)
  | weekdayName long => do
    let (index, rest) ← scanName? weekdayNames long s
    return (← sheet.setWeekday index, rest)
  | offset => do
    let (seconds, rest) ← scanOffset? true skipColons (Text.trimStart s)
    return (← sheet.setOffset seconds, rest)

/-- Read an item: a part, any white space, or the very character. -/
def Item.read? (sheet : Sheet) (s : List Char) : Item → Option (Sheet × List Char)
  | part p => p.read? sheet s
  | char c =>
    if Text.isBlank c then some (sheet, Text.trimStart s)
    else (skipChar? c s).map (sheet, ·)

/-- The sheet after reading items one after the other, and the rest. -/
def readAll? : Sheet → List Char → List Item → Option (Sheet × List Char)
  | sheet, s, [] => some (sheet, s)
  | sheet, s, item :: rest =>
    (item.read? sheet s).bind fun (sheet, s) => readAll? sheet s rest

/-- **The sheet of a whole text.** -/
def readItems? (items : List Item) (s : List Char) : Option Sheet :=
  match readAll? {} s items with
  | some (sheet, []) => some sheet
  | _ => none

/-! ### Resolving a sheet -/

namespace Sheet

/-- The year: as it is said in full, which the last two digits must not contradict, or
by those alone, between 1970 and 2069. -/
def fullYear? (s : Sheet) : Option Int :=
  match s.year, s.yearOfCentury with
  | some y, none => some y
  | some y, some r => if 0 ≤ y ∧ y % 100 = r then some y else none
  | none, some r => some (if r < 70 then 2000 + r else 1900 + r)
  | none, none => none

/-- **The date,** if year, month and day are known and the day of the week fits. -/
def date? (s : Sheet) : Option Date := do
  let date ← Date.ofYmd? (← s.fullYear?) (← s.month) (← s.day)
  if s.weekday.getD (weekdayOf date.toDays) = weekdayOf date.toDays then some date else none

/-- **The date and time of day,** if the hour and the minute are known too.  A fraction
needs its second. -/
def moment? (s : Sheet) : Option Moment := do
  let date ← s.date?
  let half : Nat := if ← s.afterNoon then 12 else 0
  let hour ← s.hourOfHalf
  let minute ← s.minute
  if s.nanos.isSome && s.second.isNone then none
  else
    let second := s.second.getD 0
    let leap := if second = 60 then nanosPerSecond else 0
    return ⟨date, half + hour, minute, min second 59, s.nanos.getD 0 + leap⟩

/-- **The instant,** if the offset is known too and is less than a day. -/
def instant? (s : Sheet) : Option Instant := do
  let offset ← s.offset
  let moment ← s.moment?
  if -secondsPerDay < offset ∧ offset < secondsPerDay then
    let t := moment.toInstant offset
    if t.isValid then some t else none
  else none

/-- Midnight of the date. -/
def midnight? (s : Sheet) : Option Instant :=
  s.date?.map fun date => (Moment.mk date 0 0 0 0).toInstant 0

end Sheet

/-- **The instant that a text stands for by a pattern.**  A text with an offset is an
instant; else a date and time are taken in universal time; else the date is taken at
midnight, whatever the text says of the time of day. -/
def readByItems? (items : List Item) (s : List Char) : Option Instant :=
  (readItems? items s).bind fun sheet =>
    sheet.instant?.or ((sheet.moment?.map (·.toInstant 0)).or sheet.midnight?)

/-! ### The two standard forms -/

/-- An offset with a colon in it, or the letter Z for none. -/
def scanOffsetOrZ? (s : List Char) : Option (Int × List Char) :=
  match (skipChar? 'Z' s).or (skipChar? 'z' s) with
  | some rest => some (0, rest)
  | none => scanOffset? true (skipChar? ':') s

/-- **The form of the net:** all numbers in full, a letter or a blank before the time,
and an offset. -/
def readRfc3339? (s : List Char) : Option Instant := do
  let sheet : Sheet := {}
  let (n, s) ← scanNumber? 4 4 s
  let sheet ← sheet.setYear n
  let (n, s) ← scanNumber? 2 2 (← skipChar? '-' s)
  let sheet ← sheet.setMonth n
  let (n, s) ← scanNumber? 2 2 (← skipChar? '-' s)
  let sheet ← sheet.setDay n
  let s ← (skipChar? 'T' s).or ((skipChar? 't' s).or (skipChar? ' ' s))
  let (n, s) ← scanNumber? 2 2 s
  let sheet ← sheet.setHour n
  let (n, s) ← scanNumber? 2 2 (← skipChar? ':' s)
  let sheet ← sheet.setMinute n
  let (n, s) ← scanNumber? 2 2 (← skipChar? ':' s)
  let sheet ← sheet.setSecond n
  let (sheet, s) ← Part.read? sheet s .fraction
  let (seconds, s) ← scanOffsetOrZ? s
  if s.isEmpty then (← sheet.setOffset seconds).instant? else none

/-- The names of zones and their hours east of Greenwich. -/
def zoneNames : List (String × Int) :=
  [("gmt", 0), ("ut", 0), ("z", 0), ("edt", -4), ("est", -5), ("cdt", -5), ("cst", -6),
    ("mdt", -6), ("mst", -7), ("pdt", -7), ("pst", -8)]

/-- The offset of a zone by name; any single letter but J is universal time. -/
def zoneOffset? (name : List Char) : Option Int :=
  let lowered := name.map lowerLetter
  match zoneNames.lookup (String.ofList lowered) with
  | some hours => some (hours * 3600)
  | none => if lowered.length = 1 ∧ lowered ≠ ['j'] then some 0 else none

/-- A zone by name or by its offset. -/
def scanZone? (s : List Char) : Option (Int × List Char) :=
  match s.takeWhile Text.isAsciiLetter with
  | [] => scanOffset? false some s
  | name => (zoneOffset? name).map (·, s.dropWhile Text.isAsciiLetter)

/-- What follows a comment, inside so many parentheses; a backslash takes away the
meaning of the next character. -/
def afterComment? : Nat → List Char → Option (List Char)
  | _, [] => none
  | depth, '\\' :: _ :: s => afterComment? depth s
  | depth, c :: s =>
    if c = ')' then (if depth = 1 then some s else afterComment? (depth - 1) s)
    else if c = '(' then afterComment? (depth + 1) s
    else afterComment? depth s

/-- Whether a text is nothing but comments, with white space before each. -/
def onlyComments (s : List Char) : Bool :=
  if s.isEmpty then true
  else
    match Text.trimStart s with
    | '(' :: rest =>
      match afterComment? 1 rest with
      | some after => if after.length < s.length then onlyComments after else false
      | none => false
    | _ => false
termination_by s.length

/-- A year in the form of the mail: two digits stand for 1950 to 2049, and three are
counted from 1900. -/
def mailYear (digits n : Nat) : Nat :=
  if digits = 2 then (if n < 50 then n + 2000 else n + 1900)
  else if digits = 3 then n + 1900
  else n

/-- The day of the week that a text in the form of the mail may begin with, and a comma
after it. -/
def readMailWeekday? (s : List Char) : Option (Sheet × List Char) :=
  match scanName? weekdayNames false s with
  | some (index, rest) =>
    (skipChar? ',' rest).bind fun rest =>
      (({} : Sheet).setWeekday index).map (·, rest)
  | none => some ({}, s)

/-- The seconds that may follow the minute in the form of the mail, after a colon. -/
def readMailSecond? (sheet : Sheet) (s : List Char) : Option (Sheet × List Char) :=
  match skipChar? ':' (Text.trimStart s) with
  | some rest =>
    (scanNumber? 2 2 rest).bind fun (n, rest) => (sheet.setSecond n).map (·, rest)
  | none => some (sheet, s)

/-- **The form of the mail:** an optional day of the week, the day, the short name of
the month, the year, the time with optional seconds, and a zone. -/
def readRfc2822? (s : List Char) : Option Instant := do
  let (sheet, s) ← readMailWeekday? (Text.trimStart s)
  let (n, s) ← scanNumber? 1 2 (Text.trimStart s)
  let sheet ← sheet.setDay n
  let (index, s) ← scanName? monthNames false (← skipBlanks? s)
  let sheet ← sheet.setMonth (index + 1)
  let s ← skipBlanks? s
  let (n, rest) ← scanLongNumber? 2 s
  let sheet ← sheet.setYear (mailYear (s.length - rest.length) n)
  let (n, s) ← scanNumber? 2 2 (← skipBlanks? rest)
  let sheet ← sheet.setHour n
  let s ← skipChar? ':' (Text.trimStart s)
  let (n, s) ← scanNumber? 2 2 (Text.trimStart s)
  let sheet ← sheet.setMinute n
  let (sheet, s) ← readMailSecond? sheet s
  let (seconds, s) ← scanZone? (← skipBlanks? s)
  if onlyComments s then (← sheet.setOffset seconds).instant? else none

/-! ### Texts without a pattern -/

/-- The items of a date in the order of the standard form. -/
def dateItems : List Item :=
  [.part .year, .char '-', .part (.month true), .char '-', .part (.day true)]

/-- The items of an hour and a minute. -/
def hourMinuteItems : List Item :=
  [.part (.hour true), .char ':', .part (.minute true)]

/-- The items of a time with a second and its fraction. -/
def timeItems : List Item :=
  hourMinuteItems ++ [.char ':', .part (.second true), .part .fraction]

/-- The forms of a date and time without an offset, in the order in which they are
tried. -/
def localForms : List (List Item) :=
  [dateItems ++ .char 'T' :: timeItems, dateItems ++ .char 'T' :: hourMinuteItems,
    dateItems ++ .char ' ' :: timeItems, dateItems ++ .char ' ' :: hourMinuteItems]

/-- **The instant that a text stands for,** in any of the usual forms. -/
def readAny? (s : List Char) : Option Instant :=
  (readRfc3339? s).or <|
    (localForms.findSome? fun items =>
      ((readItems? items s).bind Sheet.moment?).map (·.toInstant 0)).or <|
    ((readItems? dateItems s).bind Sheet.midnight?).or (readRfc2822? s)

end RecordFlow.Calendar
