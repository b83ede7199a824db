import RecordFlow.Terminal.Batch
import RecordFlow.Terminal.Console
import RecordFlow.Terminal.Invocation
import RecordFlow.Terminal.Settings

/-!
# Running a pipeline over a file of records

The pipeline, the records and the entities are read from files, every record is run through the
pipeline, and the results are printed or written into a file.  A record that fails ends
everything: then no results are printed or written.

## Main definitions

* `Terminal.definitionShape` — what a definition of a pipeline is read for.
* `Terminal.openStore` — the store for lookups.
* `Terminal.runRecord`, `Terminal.recordWarnings` — the run of one record, and what the log is
  told of it.
* `Terminal.applyPipeline` — the whole command.
-/

namespace RecordFlow.Terminal

/-! ### What files are read for -/

/-- What an option is read for. -/
def optionShape (name : String) : Shape :=
  if name ∈ ["condition", "expression", "entityType", "fromField", "toField", "suffix",
      "padChar", "search", "replacement", "pattern", "flags", "delimiter", "separator",
      "template", "decimalSeparator", "thousandsSeparator", "format", "inputFormat",
      "outputFormat"] then .optionalText
  else if name ∈ ["fields", "trueValues", "falseValues"] then .list .text
  else if name ∈ ["lookupType", "padPosition", "operation"] then .choice
  else .data

/-- **What a definition of a pipeline is read for.** -/
def definitionShape : Shape :=
  .record [
    ("name", .optionalText),
    ("transforms", .list (.record [
      ("id", .text), ("field", .text), ("target", .optionalText), ("type", .text),
      ("config", .record (Options.fieldNames.map fun name => (name, optionShape name))),
      ("optional", .data)]))]

/-! ### Records and entities -/

/-- The records in a file. -/
def readBatch (readers : Readers) (path : String) : Task Batch := do
  let content ← readDocument readers .data some path
  match Batch.ofValue content with
  | .ok batch => return batch
  | .error reason => Task.fail (.badFile path "an object or an array of objects" reason)

/-- What the log is told where lookups have no entities. -/
def noEntities : String :=
  "Pipeline has LOOKUP steps but no entity fixtures were given"

/-- **The store for lookups,** with the entities of a file if there is one. -/
def openStore (readers : Readers) (c : Console) : Option String → Task Store
  | some path => do
    let content ← readDocument readers .data some path
    let inventory ← Task.ofExcept ((Inventory.ofValue content).mapError .lookup)
    return inventory.store
  | none => do
    (Script.warn [noEntities] : Script Unit)
    (c.warning "⚠ No entity fixtures given; entity lookups will resolve to null" : Script Unit)
    return ({} : Inventory).store

/-- The access to a store that a pipeline needs. -/
def openAccess (readers : Readers) (s : Settings) (c : Console) (a : ApplyArguments)
    (p : Pipeline) : Task (Option LookupAccess) := do
  if p.requiresLookup then
    let store ← openStore readers c (a.entities.or s.lookup.entities)
    let request : Request :=
      { channelToken := a.channelToken.or s.lookup.channelToken
        languageCode := s.lookup.languageCode }
    return some ⟨store, request⟩
  else return none

/-! ### The run -/

/-- One record run through a pipeline. -/
def runRecord (p : Pipeline) (access : Option LookupAccess) (now : Calendar.Instant)
    (record : Value) : Except PipelineError Value :=
  match access with
  | some a => (p.applyWithLookup a now record).1
  | none => p.apply now record

/-- **What the log is told of a record** that is run through a pipeline, step by step. -/
def recordWarnings (p : Pipeline) (access : Option LookupAccess) (now : Calendar.Instant)
    (record : Value) : List String :=
  let steps :=
    match access with
    | some a => Pipeline.carriedOut (p.performWithLookup a now record) [] p.steps record
    | none => Pipeline.carriedOut (fun _ => p.perform now record) [] p.steps record
  steps.flatMap (·.logged)

/-- Results written into a file, in the language that its name asks for. -/
def saveResults (path : String) (results : Value) : Task Unit := do
  let content ←
    match Language.ofPath path with
    | .json => (pure (Json.indented results) : Task (List Char))
    | .yaml => pure (Yaml.print results)
    | .toml => Task.fail (.arguments ("cannot save records as TOML: " ++ path))
  match ← (Script.store path (String.ofList content) : Script _) with
  | none => return ()
  | some (.directory reason) => Task.fail (.io reason)
  | some (.file reason) => Task.fail (.unwritten path reason)

/-- **A pipeline run over a file of records.** -/
def applyPipeline (readers : Readers) (s : Settings) (c : Console) (now : Calendar.Instant)
    (a : ApplyArguments) : Task Unit := do
  let definition ← readDocument readers definitionShape PipelineDefinition.ofValue? a.pipeline
  let p := Pipeline.ofDefinition definition
  Task.ofExcept (p.validate.mapError .pipeline)
  let batch ← readBatch readers a.input
  (c.info ("Applying " ++ toString p.steps.length ++ " step(s) to " ++ toString batch.size ++
    " record(s)") : Script Unit)
  let access ← openAccess readers s c a p
  let run := runRecord p access now
  (Script.warn ((batch.attempted run).flatMap (recordWarnings p access now)) : Script Unit)
  let results ← Task.ofExcept ((batch.transform run).mapError .pipeline)
  match a.saveTo with
  | some path =>
    saveResults path results
    (c.success ("✓ Records saved to " ++ path) : Script Unit)
  | none =>
    (c.heading "Transformed Records" : Script Unit)
    (Console.result (c.format.render results) : Script Unit)

end RecordFlow.Terminal
