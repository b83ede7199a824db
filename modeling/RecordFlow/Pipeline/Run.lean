import RecordFlow.Lookup.Resolve
import RecordFlow.Pipeline.Definition
import RecordFlow.Step.Handler

/-!
# Running pipelines

A pipeline carries out its steps one after the other on a working record.  Each step reads the
value at its field in the working record and writes its result at its target there; the record
that it consults otherwise is always the one that the run began with.

A run may have access to a store or not.  Without access a lookup fails, as does a step of an
unknown kind, and one whose target cannot be written.  A step that is marked optional and fails
is passed over, and the log is told so.

A store may remember what it was asked.  So a run keeps the questions that it has asked so far,
and each step finds the store as these questions have left it.

## Main definitions

* `PipelineError` — why a pipeline is not valid or a run fails.
* `Pipeline` — steps, with handlers of further kinds.
* `Pipeline.validate` — the first fault that can be seen without running.
* `Pipeline.perform`, `Pipeline.performWithLookup` — one step without and with a store.
* `Pipeline.runSteps` — the steps one after the other.
* `Pipeline.apply`, `Pipeline.applyWithLookup` — a run without and with a store.
* `Pipeline.carriedOut` — the steps that a run carries out, with what the log is told.
-/

namespace RecordFlow

/-- **Why a pipeline is not valid,** or a run fails. -/
inductive PipelineError where
  /-- No kind of step has this identifier. -/
  | unknownKind (kind field : String)
  /-- A step of this kind cannot be carried out without a store. -/
  | needsStore (kind : String)
  /-- A step is not defined as it should be, or its target cannot be written. -/
  | configuration (reason : String) (step : Option String)
deriving DecidableEq

/-- The failure in words. -/
def PipelineError.message : PipelineError → String
  | unknownKind kind _ => "Unknown transform type: " ++ kind
  | needsStore kind =>
    "Transform '" ++ kind ++ "' requires a lookup context and cannot run synchronously"
  | configuration reason _ => "Configuration error: " ++ reason

/-- What is said of a step that names no kind. -/
def kindRequired : String := "Transform type is required"

/-- **Steps, with handlers of further kinds.** -/
structure Pipeline where
  /-- The steps. -/
  steps : List StepDefinition
  /-- Handlers by identifier; of two for one identifier the first counts. -/
  custom : List (String × Handler) := []

/-- **What a step turns out to be.** -/
inductive ResolvedStep where
  /-- Something a handler does. -/
  | handler (h : Handler)
  /-- A lookup. -/
  | lookup

/-- **Access to a store.** -/
structure LookupAccess where
  /-- The store. -/
  store : Repository
  /-- What is passed on to it. -/
  request : Request := {}

/-- **What carrying out a step comes to.** -/
structure StepOutcome where
  /-- The working record as the step leaves it. -/
  record : Value
  /-- Why the step fails, if it does. -/
  failure : Option PipelineError
  /-- What the step has asked and said. -/
  effects : Effects

namespace Pipeline

/-- The pipeline of a definition. -/
def ofDefinition (d : PipelineDefinition) : Pipeline :=
  ⟨d.steps, []⟩

/-- Add a handler, in place of an earlier one of the same identifier. -/
def withCustom (p : Pipeline) (identifier : String) (h : Handler) : Pipeline :=
  { p with custom := (identifier, h) :: p.custom }

/-- Whether some step is a lookup. -/
def requiresLookup (p : Pipeline) : Bool :=
  p.steps.any (·.kind == StepKind.lookup.identifier)

/-- **What a step is:** a lookup, a built-in kind, or a further kind, in this order. -/
def resolve (p : Pipeline) (s : StepDefinition) : Except PipelineError ResolvedStep :=
  if s.kind = StepKind.lookup.identifier then .ok .lookup
  else
    match (builtIn? s.kind).or (p.custom.lookup s.kind) with
    | some h => .ok (.handler h)
    | none => .error (.unknownKind s.kind s.field)

/-- The fault of a step that can be seen without running it. -/
def checkStep (p : Pipeline) (s : StepDefinition) : Except PipelineError Unit :=
  if s.lacksKind then .error (.configuration kindRequired (some s.id))
  else if s.isOptional then .ok ()
  else (p.resolve s).map fun _ => ()

/-- **The first fault that can be seen without running.** -/
def validate (p : Pipeline) : Except PipelineError Unit :=
  p.steps.forM p.checkStep

/-- Write the result of a step into the working record.  If the write fails, the record is as
the write has left it. -/
def writeResult (s : StepDefinition) (working result : Value) (effects : Effects) :
    StepOutcome :=
  let (record, obstacle) := working.write (segments s.targetField) result
  ⟨record, obstacle.map fun o => .configuration (o.message s.targetField) (some s.id), effects⟩

/-- **Carry out a step without a store.** -/
def perform (p : Pipeline) (now : Calendar.Instant) (initial working : Value)
    (s : StepDefinition) : StepOutcome :=
  match p.resolve s with
  | .ok (.handler h) =>
    let value := working.resolve s.field
    writeResult s working (h s.options ⟨some initial, now⟩ value) .none
  | .ok .lookup => ⟨working, some (.needsStore s.kind), .none⟩
  | .error e => ⟨working, some e, .none⟩

/-- **Carry out a step with a store,** which is as the earlier questions have left it. -/
def performWithLookup (p : Pipeline) (access : LookupAccess) (now : Calendar.Instant)
    (initial : Value) (earlier : List Find) (working : Value) (s : StepDefinition) :
    StepOutcome :=
  match p.resolve s with
  | .ok resolved =>
    let value := working.resolve s.field
    let (result, effects) :=
      match resolved with
      | .handler h => (h s.options ⟨some initial, now⟩ value, .none)
      | .lookup => lookUp (access.store.after earlier) access.request s.options value
    writeResult s working result effects
  | .error e => ⟨working, some e, .none⟩

/-- The failure of a step, unless the step is optional. -/
def countedFailure (s : StepDefinition) (o : StepOutcome) : Option PipelineError :=
  if s.isOptional then none else o.failure

/-- **A way to carry out steps:** what a step comes to after some questions, on a working
record. -/
abbrev StepRunner := List Find → Value → StepDefinition → StepOutcome

/-- The record after some steps, each of them carried out in the given way, or the first failure
that counts.  After a failure that does not count, the run goes on from the record as the step
has left it.  In any case the questions of the step come before those of the rest. -/
def runSteps (carryOut : StepRunner) (earlier : List Find) :
    List StepDefinition → Value → Except PipelineError Value × Effects
  | [], working => (.ok working, .none)
  | s :: rest, working =>
    let o := carryOut earlier working s
    match countedFailure s o with
    | some e => (.error e, o.effects)
    | none =>
      let (result, later) := runSteps carryOut (earlier ++ o.effects.finds) rest o.record
      (result, o.effects ++ later)

/-- **A run without a store.** -/
def apply (p : Pipeline) (now : Calendar.Instant) (record : Value) :
    Except PipelineError Value :=
  (runSteps (fun _ => p.perform now record) [] p.steps record).1

/-- **A run with a store,** and what it has asked and said. -/
def applyWithLookup (p : Pipeline) (access : LookupAccess) (now : Calendar.Instant)
    (record : Value) : Except PipelineError Value × Effects :=
  runSteps (p.performWithLookup access now record) [] p.steps record

/-! ### The steps of a run -/

/-- **A step as a run has carried it out.** -/
structure CarriedOut where
  /-- The step. -/
  step : StepDefinition
  /-- The questions that the run had asked before the step. -/
  earlier : List Find
  /-- The working record before the step. -/
  before : Value
  /-- What the step came to. -/
  outcome : StepOutcome

/-- **The steps that a run carries out,** in order: all of them, or those up to the first
failure that counts. -/
def carriedOut (carryOut : StepRunner) (earlier : List Find) :
    List StepDefinition → Value → List CarriedOut
  | [], _ => []
  | s :: rest, working =>
    let o := carryOut earlier working s
    ⟨s, earlier, working, o⟩ ::
      match countedFailure s o with
      | some _ => []
      | none => carriedOut carryOut (earlier ++ o.effects.finds) rest o.record

namespace CarriedOut

/-- What is said of a step that is passed over. -/
def passedOverWarning (s : StepDefinition) (e : PipelineError) : String :=
  "Optional transform step '" ++ s.id ++ "' failed: " ++ e.message

/-- **What the log is told of a step:** the warnings of its lookup, and then that it is passed
over, if it is optional and has failed. -/
def logged (c : CarriedOut) : List String :=
  c.outcome.effects.warnings ++
    match c.step.isOptional, c.outcome.failure with
    | true, some e => [passedOverWarning c.step e]
    | _, _ => []

end CarriedOut

end Pipeline

end RecordFlow
