import RecordFlow.Step.Options

/-!
# Steps on arrays

One item of an array is picked, or nested arrays are opened.  Other values stay as they
are.

## Main definitions

* `Sequence.itemAt?` — the item at a position, counted from either end.
* `Sequence.flatten` — the items with nested arrays opened to a depth.
-/

namespace RecordFlow

namespace Sequence

/-- **The item at a position;** negative positions count from the end. -/
def itemAt? (items : List Value) (position : Int) : Option Value :=
  if 0 ≤ position then items[position.toNat]?
  else if position.natAbs ≤ items.length then items[items.length - position.natAbs]?
  else none

mutual

/-- What an item becomes when nested arrays are opened to a depth: an array its own
items, anything else itself. -/
def opened : Nat → Value → List Value
  | depth + 1, .arr items => flatten depth items
  | _, v => [v]

/-- **The items with nested arrays opened to a depth.** -/
def flatten (depth : Nat) : List Value → List Value
  | [] => []
  | item :: rest => opened depth item ++ flatten depth rest

end

end Sequence

namespace Step

/-- The item at a position of an array, or null; any other value itself. -/
def pick (position : Int) : Value → Value
  | .arr items => (Sequence.itemAt? items position).getD .null
  | v => v

/-- The first item. -/
def first : Value → Value :=
  pick 0

/-- The last item. -/
def last : Value → Value :=
  pick (-1)

/-- The item at the position of the options. -/
def nth (o : Options) : Value → Value :=
  pick (o.index.getD 0)

/-- The items with nested arrays opened. -/
def flatten (o : Options) : Value → Value
  | .arr items => .arr (Sequence.flatten (o.depth.getD 1) items)
  | v => v

end Step

end RecordFlow
