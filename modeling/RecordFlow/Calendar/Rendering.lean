import RecordFlow.Calendar.Instant
import RecordFlow.Calendar.Pattern

/-!
# Writing dates

An instant is written item by item, in universal time.

## Main definitions

* `Part.render` — the text of a part of a moment.
* `render` — the text of an instant by the items of a pattern.
* `isoItems`, `isoText` — the standard form of an instant, to the millisecond.
-/

namespace RecordFlow.Calendar

/-- The decimal digits of a number, with zeros in front up to a width. -/
def padded (width n : Nat) : List Char :=
  let digits := Nat.toDigits 10 n
  List.replicate (width - digits.length) '0' ++ digits

/-- A number of two digits, or of as many as it has. -/
def twoDigits (pad : Bool) (n : Nat) : List Char :=
  if pad then padded 2 n else Nat.toDigits 10 n

/-- **The text of a year:** four digits, and a sign in front if there are years of the
calendar without one. -/
def yearText (year : Int) : List Char :=
  if 0 ≤ year ∧ year ≤ 9999 then padded 4 year.toNat
  else (if year < 0 then '-' else '+') :: padded 4 year.natAbs

/-- A name out of a list, in full or in three letters. -/
def nameText (names : List String) (long : Bool) (index : Nat) : List Char :=
  let name := ((names[index]?).getD "").toList
  if long then name else name.take 3

/-- The text of an hour of a half day. -/
def hourOfHalfDay (hour : Nat) : Nat :=
  if hour % 12 = 0 then 12 else hour % 12

/-- **The text of a part of a moment.** -/
def Part.render (m : Moment) : Part → List Char
  | year => yearText m.date.year
  | yearOfCentury => padded 2 (m.date.year % 100).toNat
  | month pad => twoDigits pad m.date.month
  | monthName long => nameText monthNames long (m.date.month - 1)
  | day pad => twoDigits pad m.date.day
  | hour pad => twoDigits pad m.hour
  | hourOfHalf pad => twoDigits pad (hourOfHalfDay m.hour)
  | minute pad => twoDigits pad m.minute
  | second pad => twoDigits pad (m.second + m.nanos / nanosPerSecond)
  | millisecond => padded 3 (m.nanos % nanosPerSecond / 1000000)
  | fraction => '.' :: padded 9 (m.nanos % nanosPerSecond)
  | halfDay => if m.hour < 12 then ['A', 'M'] else ['P', 'M']
  | weekdayName long => nameText weekdayNames long (weekdayOf m.date.toDays)
  | offset => ['+', '0', '0', ':', '0', '0']

/-- The text of an item. -/
def Item.render (m : Moment) : Item → List Char
  | part p => p.render m
  | char c => [c]

/-- **The text of an instant** by the items of a pattern. -/
def render (items : List Item) (t : Instant) : List Char :=
  items.flatMap (Item.render t.moment)

/-- The items of the standard form. -/
def isoItems : List Item :=
  [.part .year, .char '-', .part (.month true), .char '-', .part (.day true), .char 'T',
    .part (.hour true), .char ':', .part (.minute true), .char ':', .part (.second true),
    .char '.', .part .millisecond, .char 'Z']

/-- **The standard form of an instant,** to the millisecond and in universal time. -/
def isoText (t : Instant) : List Char :=
  render isoItems t

end RecordFlow.Calendar
