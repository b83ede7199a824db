import RecordFlow.Step.Options
import RecordFlow.Text.Blank

/-!
# Definitions of pipelines

A pipeline is defined by a list of steps.  A step names the field it reads, the kind of
step it is, its options, and perhaps another place for its result.

## Main definitions

* `StepDefinition` — one step.
* `PipelineDefinition` — a named list of steps.
* `ofValue?`, `toValue` — a definition in a record of data, and back.
-/

namespace RecordFlow

/-- **One step of a pipeline.** -/
structure StepDefinition where
  /-- The name of the step in messages. -/
  id : String
  /-- The path of the value that the step reads. -/
  field : String
  /-- The path of its result, if that is another one. -/
  target : Option String := none
  /-- The identifier of its kind. -/
  kind : String
  /-- Its options. -/
  options : Options := {}
  /-- Whether the step is passed over when it fails. -/
  isOptional : Bool := false

namespace StepDefinition

/-- The path at which the result is written. -/
def targetField (s : StepDefinition) : String :=
  s.target.getD s.field

/-- Whether no kind is given. -/
def lacksKind (s : StepDefinition) : Bool :=
  Text.allBlank s.kind.toList

/-- The step in a record of data. -/
def ofValue? (v : Value) : Option StepDefinition := do
  let o ← v.asRecord? ["id", "field", "target", "type", "config", "optional"]
  return {
    id := ← o.required "id" Value.asString?
    field := ← o.required "field" Value.asString?
    target := ← o.optional "target" Value.asString?
    kind := ← o.required "type" Value.asString?
    options := ← o.withDefault "config" {} Options.ofValue?
    isOptional := ← o.withDefault "optional" false Value.asBool? }

/-- The step as an object of data; the target is left out if there is none. -/
def toValue (s : StepDefinition) : Value :=
  .obj (Fields.ofList (
    [("id", .str s.id), ("field", .str s.field), ("type", .str s.kind),
      ("config", s.options.toValue), ("optional", .bool s.isOptional)] ++
    s.target.toList.map fun target => ("target", .str target)))

end StepDefinition

/-- **A named list of steps.** -/
structure PipelineDefinition where
  /-- The name, if there is one. -/
  name : Option String := none
  /-- The steps, in the order in which they are carried out. -/
  steps : List StepDefinition := []

namespace PipelineDefinition

/-- The definition in a record of data. -/
def ofValue? (v : Value) : Option PipelineDefinition := do
  let o ← v.asRecord? ["name", "transforms"]
  return {
    name := ← o.optional "name" Value.asString?
    steps := ← o.withDefault "transforms" [] (Value.asList? StepDefinition.ofValue?) }

/-- The definition as an object of data. -/
def toValue (d : PipelineDefinition) : Value :=
  .obj (Fields.ofList [("name", .ofOption .str d.name),
    ("transforms", .arr (d.steps.map StepDefinition.toValue))])

end PipelineDefinition

end RecordFlow
