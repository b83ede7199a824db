import RecordFlow.Report.Format
import RecordFlow.Step.Kind

/-!
# The catalogue of steps

All built-in kinds of steps, in the order of their identifiers.  A reader is shown them
by category.

## Main definitions

* `Report.catalogue` — the kinds in order.
* `Report.renderCatalogue` — the catalogue in a format.
-/

namespace RecordFlow.Report

/-- **The built-in kinds of steps** in the order of their identifiers. -/
def catalogue : List StepKind :=
  StepKind.all.mergeSort fun a b => decide (a.identifier ≤ b.identifier)

/-- A kind in an object of data, the fields in the order of the catalogue. -/
def entry (kind : StepKind) : Value :=
  .obj [("name", .str kind.identifier), ("category", .str kind.category),
    ("async", .bool kind.asksStore)]

/-- The categories in order, each once. -/
def categories : List String :=
  (StepKind.all.map StepKind.category).eraseDups.mergeSort fun a b => decide (a ≤ b)

/-- The identifier of a kind, with a remark where it asks a store. -/
def remark (kind : StepKind) : List Char :=
  kind.identifier.toList ++ if kind.asksStore then " (async)".toList else []

/-- The kinds of a category under its name. -/
def categoryText (category : String) : List Char :=
  '\n' :: category.toList ++ ":\n  ".toList ++
    Text.joinWith [',', ' '] ((catalogue.filter (·.category == category)).map remark) ++
    ['\n']

/-- **The catalogue in a format.** -/
def renderCatalogue (format : Format) : List Char :=
  match format with
  | .human =>
    intText catalogue.length ++ " built-in transforms\n".toList ++
      categories.flatMap categoryText
  | format => format.render (.arr (catalogue.map entry))

end RecordFlow.Report
