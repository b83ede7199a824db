import RecordFlow.Report.Format

/-!
# Reports of evaluations

A report says what was evaluated, on which value, and with which result.  A reader is
shown three lines with both values summed up; the other formats have the whole data, the
fields in the order of the report.

## Main definitions

* `Report.summary` — a value summed up on one line.
* `Report.Evaluation` — a report.
* `Report.Evaluation.render` — the report in a format.
-/

namespace RecordFlow.Report

mutual

/-- **A value summed up on one line.**  Of an array of more than three items, and of an
object of more than two fields, only the number is told. -/
def summary : Value → List Char
  | .null => "null".toList
  | .bool b => if b then "true".toList else "false".toList
  | .num n => Json.numberText n
  | .str s => '"' :: s.toList ++ ['"']
  | .arr items =>
    if items.length ≤ 3 then '[' :: Text.joinWith [',', ' '] (itemSummaries items) ++ [']']
    else '[' :: intText items.length ++ " items]".toList
  | .obj fields =>
    if fields.length ≤ 2 then
      '\x7b' :: Text.joinWith [',', ' '] (fieldSummaries fields) ++ ['\x7d']
    else '\x7b' :: intText fields.length ++ " fields\x7d".toList

/-- The items of an array, summed up. -/
def itemSummaries : List Value → List (List Char)
  | [] => []
  | item :: rest => summary item :: itemSummaries rest

/-- The fields of an object, summed up. -/
def fieldSummaries : List (String × Value) → List (List Char)
  | [] => []
  | (name, value) :: rest => (name.toList ++ ':' :: ' ' :: summary value) :: fieldSummaries rest

end

/-- **A report of an evaluation.** -/
structure Evaluation where
  /-- What was evaluated: a condition, an expression, or a kind of step. -/
  kind : String
  /-- The text of the condition or expression; a step has none. -/
  source : Option String
  /-- The value that it was evaluated on. -/
  input : Value
  /-- The result. -/
  result : Value

namespace Evaluation

/-- The fields of a report, in its own order. -/
def fields (e : Evaluation) : List (String × Value) :=
  ("kind", .str e.kind) :: e.source.toList.map (("source", .str ·)) ++
    [("input", e.input), ("result", e.result)]

/-- The heading of a report. -/
def heading (e : Evaluation) : List Char :=
  match e.source with
  | some source => e.kind.toList ++ ' ' :: source.toList
  | none => "transform ".toList ++ e.kind.toList

/-- **The report in a format.** -/
def render (format : Format) (e : Evaluation) : List Char :=
  match format with
  | .human =>
    e.heading ++ "\n  input:  ".toList ++ summary e.input ++
      "\n  result: ".toList ++ summary e.result ++ ['\n']
  | format => format.render (.obj e.fields)

end Evaluation

end RecordFlow.Report
