import RecordFlow.Pipeline.Run

/-!
# Drafts of steps

A step is put together piece by piece, and checked when it is finished.

## Main definitions

* `StepDraft` — a step that is not finished.
* `StepDraft.finish` — the step, or what it lacks.
-/

namespace RecordFlow

/-- **A step that is not finished.** -/
structure StepDraft where
  /-- The name of the step in messages. -/
  id : String
  /-- The path of the value that the step reads. -/
  field : String
  /-- The path of its result. -/
  target : Option String := none
  /-- The identifier of its kind. -/
  kind : Option String := none
  /-- Its options. -/
  options : Options := {}
  /-- Whether the step is passed over when it fails. -/
  isOptional : Bool := false

/-- **The step, or what it lacks:** its kind first, then its field. -/
def StepDraft.finish (d : StepDraft) : Except PipelineError StepDefinition :=
  match d.kind.filter fun kind => !Text.allBlank kind.toList with
  | none => .error (.configuration kindRequired (some d.id))
  | some kind =>
    if d.field.isEmpty then .error (.configuration "Source field is required" (some d.id))
    else
      .ok { id := d.id, field := d.field, target := d.target, kind := kind,
            options := d.options, isOptional := d.isOptional }

end RecordFlow
