import RecordFlow.Formula.Expression
import RecordFlow.Step.Options

/-!
# Steps that choose

A step may choose between two values by a condition, take the first value that is not
missing, compute an expression, or keep or change the items of an array.

## Main definitions

* `Step.ifElse`, `Step.coalesce`, `Step.default` — one value out of several.
* `Step.expression` — the value of an expression.
* `Step.filter`, `Step.mapArray` — the items of an array chosen or changed.
-/

namespace RecordFlow.Step

/-- **One of two values, by a condition.**  Without a condition the value stays. -/
def ifElse (o : Options) (record : Option Value) (v : Value) : Value :=
  match o.condition with
  | none => v
  | some c =>
    (if Formula.conditionHolds c.toList v record then o.thenValue else o.elseValue).getD .null

/-- **The first value that is not missing:** the value itself, a field of the record in
the order of the options, or else the default. -/
def coalesce (o : Options) (record : Option Value) (v : Value) : Value :=
  if v.isMissing then
    match (o.fields.getD []).map (fun path => (record.getD .null).resolve path)
        |>.find? (!·.isMissing) with
    | some found => found
    | none => o.defaultValue.getD .null
  else v

/-- The default in place of a missing value. -/
def default (o : Options) (v : Value) : Value :=
  if v.isMissing then o.defaultValue.getD .null else v

/-- **The items of an array for which the expression, taken as a condition, holds.** -/
def filter (o : Options) (record : Option Value) (v : Value) : Value :=
  match v, o.expression with
  | .arr items, some e =>
    .arr (items.filter fun item => Formula.conditionHolds e.toList item record)
  | v, _ => v

/-- **Each item of an array replaced by the value of the expression on it.** -/
def mapArray (o : Options) (record : Option Value) (v : Value) : Value :=
  match v, o.expression with
  | .arr items, some e => .arr (items.map fun item => Formula.expressionValue e.toList item record)
  | v, _ => v

/-- The value of an expression. -/
def expression (o : Options) (record : Option Value) (v : Value) : Value :=
  match o.expression with
  | some e => Formula.expressionValue e.toList v record
  | none => v

end RecordFlow.Step
