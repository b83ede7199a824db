/-!
# Tables of code points

What the character standard gives as a table is written here as a listing: rows
separated by blanks or line ends, each a few hexadecimal numbers joined by dashes.

    41-5A 61-7A AA

A set of characters is such a listing of closed intervals, stored as a sorted array.

## Main definitions

* `rows` — the numbers of a listing, row by row.
* `CodeRanges` — a sorted array of disjoint closed intervals.
* `CodeRanges.ofText` — the intervals that a listing spells out.
* `CodeRanges.contains` — membership, by bisection.
-/

namespace RecordFlow.Text

/-- The value of a hexadecimal digit written in upper case, and `none` for any
other character. -/
def hexDigit? (c : Char) : Option Nat :=
  if '0' ≤ c ∧ c ≤ '9' then some (c.toNat - 48)
  else if 'A' ≤ c ∧ c ≤ 'F' then some (c.toNat - 55)
  else none

/-- What has been read of a listing: the finished rows, the finished numbers of the
row being read (last first), and the number whose digits are being read. -/
structure ListingState where
  /-- The rows read so far. -/
  done : Array (List Nat)
  /-- The numbers of the present row, last first. -/
  row : List Nat
  /-- The present number. -/
  current : Option Nat

namespace ListingState

/-- Nothing has been read. -/
def start : ListingState := ⟨#[], [], none⟩

/-- End the present number. -/
def closeNumber (s : ListingState) : ListingState :=
  { s with row := s.current.toList ++ s.row, current := none }

/-- End the present number and the present row; an empty row is dropped. -/
def closeRow (s : ListingState) : ListingState :=
  match s.closeNumber.row with
  | [] => ⟨s.done, [], none⟩
  | row => ⟨s.done.push row.reverse, [], none⟩

/-- Read one character of a listing. -/
def step (s : ListingState) (c : Char) : ListingState :=
  match hexDigit? c with
  | some d => { s with current := some (s.current.getD 0 * 16 + d) }
  | none => if c = '-' then s.closeNumber else s.closeRow

end ListingState

/-- The numbers of a listing, row by row. -/
def rows (listing : String) : Array (List Nat) :=
  (listing.foldl ListingState.step ListingState.start).closeRow.done

/-- **A set of code points.**  Each pair is the least and the greatest member of a
run; the runs are sorted and do not overlap. -/
structure CodeRanges where
  /-- The runs, in increasing order. -/
  bounds : Array (Nat × Nat)

namespace CodeRanges

/-- The set that a listing spells out: one number is a set of its own, two are the
ends of an interval. -/
def ofText (listing : String) : CodeRanges :=
  ⟨(rows listing).filterMap fun
    | [code] => some (code, code)
    | [least, greatest] => some (least, greatest)
    | _ => none⟩

/-- Bisection between the runs `lo` (included) and `hi` (excluded). -/
def search (bounds : Array (Nat × Nat)) (code lo hi : Nat) : Bool :=
  if _h : lo < hi then
    let mid := lo + (hi - lo) / 2
    match bounds[mid]? with
    | none => false
    | some (least, greatest) =>
      if code < least then search bounds code lo mid
      else if greatest < code then search bounds code (mid + 1) hi
      else true
  else false
termination_by hi - lo

/-- Whether the code point is in the set. -/
def contains (r : CodeRanges) (code : Nat) : Bool :=
  search r.bounds code 0 r.bounds.size

end CodeRanges

end RecordFlow.Text
