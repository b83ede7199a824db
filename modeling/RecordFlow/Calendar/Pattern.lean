import RecordFlow.Text.Blank
import RecordFlow.Text.CharClass

/-!
# Patterns of dates

A pattern is a text in which runs of letters stand for the parts of a date:

    yyyy-MM-dd'T'HH:mm:ss.SSS

Text between single quotes stands for itself; a quote is written twice.  Letters that
name no part, and all other characters, stand for themselves too.

A pattern is read once, into a list of items; dates are written and read by the items.
The items have a text of their own, in which every part is a directive after a percent
sign.

## Main definitions

* `Part` — a part of a date or time.
* `Item` — a part, or a character that stands for itself.
* `patternItems` — the items of a pattern.
* `Item.directive`, `directives` — the text of items.
-/

namespace RecordFlow.Calendar

/-- **A part of a date or time.**  Numbers of two digits are padded with a zero or
not. -/
inductive Part where
  | year
  | yearOfCentury
  | month (padded : Bool)
  | monthName (long : Bool)
  | day (padded : Bool)
  | hour (padded : Bool)
  | hourOfHalf (padded : Bool)
  | minute (padded : Bool)
  | second (padded : Bool)
  /-- Three digits of the fraction of a second. -/
  | millisecond
  /-- A point and a fraction of a second, or nothing. -/
  | fraction
  /-- Before or after noon. -/
  | halfDay
  | weekdayName (long : Bool)
  /-- Hours and minutes east of Greenwich. -/
  | offset
deriving DecidableEq

/-- **An item of a pattern.** -/
inductive Item where
  /-- A part of the date. -/
  | part (p : Part)
  /-- A character that stands for itself. -/
  | char (c : Char)
deriving DecidableEq

/-- The part that a run of a letter stands for. -/
def partOfRun? (letter : Char) (length : Nat) : Option Part :=
  match letter with
  | 'y' => some (if length = 2 then .yearOfCentury else .year)
  | 'M' =>
    some (if length = 1 then .month false else if length = 2 then .month true
      else .monthName (length ≠ 3))
  | 'd' => some (.day (length ≠ 1))
  | 'H' => some (.hour (length ≠ 1))
  | 'h' => some (.hourOfHalf (length ≠ 1))
  | 'm' => some (.minute (length ≠ 1))
  | 's' => some (.second (length ≠ 1))
  | 'S' => some .millisecond
  | 'a' => some .halfDay
  | 'E' => some (.weekdayName (length = 4))
  | 'X' => some .offset
  | 'x' => some .offset
  | _ => none

/-- The single quote. -/
def quoteMark : Char := Char.ofNat 0x27

/-- The items of a pattern, inside quotes or outside. -/
def itemsFrom (quoted : Bool) (s : List Char) : List Item :=
  match s with
  | [] => []
  | c :: rest =>
    if c = quoteMark then
      match rest with
      | [] => []
      | d :: rest' =>
        if d = quoteMark then .char quoteMark :: itemsFrom quoted rest'
        else itemsFrom (!quoted) (d :: rest')
    else if quoted ∨ Text.isAsciiLetter c = false then .char c :: itemsFrom quoted rest
    else
      let length := (rest.takeWhile (· == c)).length + 1
      (match partOfRun? c length with
        | some p => [.part p]
        | none => List.replicate length (.char c)) ++
        itemsFrom false (rest.dropWhile (· == c))
termination_by s.length
decreasing_by
  all_goals simp only [List.length_cons]
  · omega
  · omega
  · omega
  · have : (rest.dropWhile (· == c)).length ≤ rest.length :=
      (List.dropWhile_sublist _).length_le
    omega

/-- **The items of a pattern.** -/
def patternItems (pattern : List Char) : List Item :=
  itemsFrom false pattern

/-- The directive of a part. -/
def Part.directive : Part → String
  | year => "%Y"
  | yearOfCentury => "%y"
  | month padded => if padded then "%m" else "%-m"
  | monthName long => if long then "%B" else "%b"
  | day padded => if padded then "%d" else "%-d"
  | hour padded => if padded then "%H" else "%-H"
  | hourOfHalf padded => if padded then "%I" else "%-I"
  | minute padded => if padded then "%M" else "%-M"
  | second padded => if padded then "%S" else "%-S"
  | millisecond => "%3f"
  | fraction => "%.f"
  | halfDay => "%p"
  | weekdayName long => if long then "%A" else "%a"
  | offset => "%:z"

/-- The text of an item; a percent sign is written twice. -/
def Item.directive : Item → List Char
  | part p => p.directive.toList
  | char c => if c = '%' then ['%', '%'] else [c]

/-- **The text of items.** -/
def directives (items : List Item) : List Char :=
  items.flatMap Item.directive

end RecordFlow.Calendar
