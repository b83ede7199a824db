import RecordFlow.Formula.Expression
import RecordFlow.Step.Wording

/-!
# Steps that cut and assemble texts

Splitting a string, joining an array, putting together fields of the record, filling in
a template and replacing a fixed text.

## Main definitions

* `Step.split`, `Step.join` — a string to its parts, and parts to a string.
* `Step.concat` — fields of the record in one string.
* `Step.template` — a template filled in.
* `Step.replace` — every occurrence of a text replaced.
-/

namespace RecordFlow.Step

/-- **The parts of a string,** trimmed.  An empty delimiter gives the characters, which
are not. -/
def split (o : Options) : Value → Value
  | .str s =>
    let delimiter := chars o.delimiter ","
    if delimiter.isEmpty then .arr (s.toList.map fun c => .text [c])
    else .arr ((Text.splitOn delimiter s.toList).map fun part => .text (Text.trim part))
  | v => v

/-- **The items of an array in one string,** null items being empty. -/
def join (o : Options) : Value → Value
  | .arr items => .text (Text.joinWith (chars o.delimiter ",") (items.map Value.display))
  | v => v

/-- **Fields of the record in one string.**  Fields that are null or absent are left
out. -/
def concat (o : Options) (record : Option Value) (v : Value) : Value :=
  match o.fields with
  | none => v
  | some paths =>
    let found := (paths.map (record.getD .null).resolve).filter (!·.isNull)
    .text (Text.joinWith (chars o.separator "") (found.map Value.toText))

/-- A template filled in from the record and the value. -/
def template (o : Options) (record : Option Value) (v : Value) : Value :=
  match o.template with
  | none => v
  | some t => .text (Formula.interpolate t.toList (record.getD .null) v)

/-- Every occurrence of a text in a string replaced; an empty text has none. -/
def replace (o : Options) (v : Value) : Value :=
  match chars o.search "" with
  | [] => v
  | search => v.mapText (Text.replaceAll search (chars o.replacement ""))

end RecordFlow.Step
