import RecordFlow.Step.Wording

/-!
# Steps that look a value up in a table

A table has texts for keys.  Upper and lower case may be told apart or not; when they
are not, several keys may fit, and the last of them in the order of keys counts.

## Main definitions

* `Table.find?` — what a table has for a key.
* `Step.mapValue` — a value replaced through a table.
-/

namespace RecordFlow

/-- **What a table has for a key.** -/
def Table.find? (table : Fields) (caseSensitive : Bool) (key : String) : Option Value :=
  if caseSensitive then table.get? key
  else
    ((table.filter fun (name, _) => Text.lowered name == Text.lowered key).getLast?).map (·.2)

/-- **A value replaced through a table,** by its text and without regard to case unless
that is asked for.  A value that the table does not have becomes the default, and stays
as it is if there is none; null stays null. -/
def Step.mapValue (o : Options) (v : Value) : Value :=
  match o.values, v with
  | none, v => v
  | some _, .null => .null
  | some table, v =>
    match Table.find? table (o.caseSensitive == some true) (String.ofList v.toText) with
    | some found => found
    | none =>
      match o.defaultValue with
      | none | some .null => v
      | some default => default

end RecordFlow
