import RecordFlow.Proofs.Terminal.Batches
import RecordFlow.Proofs.Terminal.Scripts
import RecordFlow.Terminal.Run

/-!
# Applications of pipelines

What the command that runs a pipeline over a file of records comes to, from the command line to
the exit code, where the results are wanted in JSON.

An `Application` is a command that gets as far as the records: the settings, the pipeline, the
records and the entities are read, and the pipeline is valid.  From there on only the records
count.  Either all of them succeed, and the outputs are printed or saved in the form of the
records, or the first one that fails ends the command, and nothing is printed or saved.

* **Up to the records the command only reads** (`Application.runOn_applyPipeline`).  In JSON, a
  reader is told nothing in between (`Console.isTalkative_of_isJson`); the log is told where
  lookups have no entities, and then what went wrong with each record that is run.
* **Then it fails, or delivers the outputs** (`Application.outcome_of_error`,
  `Application.runOn_applyPipeline_of_ok`).  A document in JSON is printed as it is, since it
  ends in a bracket (`trimEnd_render`).
* **The command line adds the exit code and the words of a failure** (`Application.outcome_eq`),
  and what is said of the settings and of the log comes before them.

The pipeline, the records and the entities may be in any of the three languages.  Nothing is
assumed of the readers of YAML and TOML, so a file that loads is one that the readers at hand
make something of.

## Main definitions

* `Application` — a command that gets as far as the records.
* `Application.of?` — the application of a command line, if it is one.
* `Application.runRecord` — one record run through the pipeline.
* `Application.log` — what the log is told where some records are run.
* `Application.outcome` — what the command comes to.
-/

namespace RecordFlow.Terminal

open Text

variable {d : Disk} {readers : Readers}

/-! ### The console in a format of data -/

/-- Whether a format is JSON, on one line or on indented lines.  In these formats nothing but
results is printed, so that what is printed can be read by a program. -/
def IsJson (format : Report.Format) : Prop :=
  format = .json ∨ format = .jsonPretty

instance : DecidablePred IsJson :=
  fun format => inferInstanceAs (Decidable (format = .json ∨ format = .jsonPretty))

namespace Console

variable {c : Console}

theorem isTalkative_of_isJson (h : IsJson c.format) : c.isTalkative = false := by
  rcases h with h | h
  · rw [isTalkative, h]
    exact Bool.and_false _
  · rw [isTalkative, h]
    exact Bool.and_false _

/-- In JSON, a reader is not told what goes on. -/
theorem info_of_isJson (h : IsJson c.format) (message : String) : c.info message = pure () := by
  rw [info, isTalkative_of_isJson h]
  rfl

/-- In JSON, a reader is not told what has been done. -/
theorem success_of_isJson (h : IsJson c.format) (message : String) :
    c.success message = pure () := by
  rw [success, isTalkative_of_isJson h]
  rfl

/-- In JSON, there are no headings. -/
theorem heading_of_isJson (h : IsJson c.format) (title : String) :
    c.heading title = pure () := by
  rw [heading, isTalkative_of_isJson h]
  rfl

/-- In JSON, even what is essential is not said on the channel for output. -/
theorem warning_of_isJson (h : IsJson c.format) (message : String) :
    c.warning message = pure () := by
  rcases h with h | h
  · rw [warning, h]
    rfl
  · rw [warning, h]
    rfl

end Console

/-! ### Documents in JSON -/

/-- A document ends in its bracket. -/
theorem exists_render_eq_concat {format : Report.Format} (h : IsJson format) {v : Value}
    (hv : Batch.isObject v = true ∨ v.isArray = true) :
    ∃ front bracket, format.render v = front ++ [bracket] ∧ isBlank bracket = false := by
  have hsquare : isBlank ']' = false := by decide
  have hcurly : isBlank '\x7d' = false := by decide
  have hcompact : ∃ front bracket, Json.compact v = front ++ [bracket] ∧
      isBlank bracket = false := by
    cases v with
    | obj fields => exact ⟨'\x7b' :: Json.compactFields fields, '\x7d', rfl, hcurly⟩
    | arr items => exact ⟨'[' :: Json.compactItems items, ']', rfl, hsquare⟩
    | _ => rcases hv with hv | hv <;> cases hv
  have hindented : ∃ front bracket, Json.indented v = front ++ [bracket] ∧
      isBlank bracket = false := by
    rw [Json.indented]
    cases v with
    | obj fields =>
      cases fields with
      | nil => exact ⟨['\x7b'], '\x7d', rfl, hcurly⟩
      | cons field rest =>
        exact ⟨'\x7b' :: Json.newline 1 ++ Json.indentedFields 1 (field :: rest) ++ Json.newline 0,
          '\x7d', rfl, hcurly⟩
    | arr items =>
      cases items with
      | nil => exact ⟨['['], ']', rfl, hsquare⟩
      | cons item rest =>
        exact ⟨'[' :: Json.newline 1 ++ Json.indentedItems 1 (item :: rest) ++ Json.newline 0,
          ']', rfl, hsquare⟩
    | _ => rcases hv with hv | hv <;> cases hv
  rcases h with rfl | rfl
  · exact hcompact
  · exact hindented

/-- **A document in JSON has no white space at its end** that could be cut off. -/
theorem trimEnd_render {format : Report.Format} (h : IsJson format) {v : Value}
    (hv : Batch.isObject v = true ∨ v.isArray = true) :
    trimEnd (format.render v) = format.render v := by
  obtain ⟨front, bracket, hrender, hbracket⟩ := exists_render_eq_concat h hv
  rw [hrender, trimEnd_concat hbracket]

/-! ### The parts of the command -/

theorem eq_ok_of_mem_toOption {α ε : Type} {r : Except ε α} {a : α} (h : a ∈ r.toOption) :
    r = .ok a := by
  cases r with
  | error e => cases h
  | ok b => exact congrArg Except.ok (Option.some.inj h)

/-- The store that is opened for lookups: with the entities of a file, or the empty one. -/
def Disk.store? (d : Disk) (readers : Readers) : Option String → Option Store
  | some path =>
    (d.document? readers .data path).bind fun content =>
      (Inventory.ofValue content).toOption.map (·.store)
  | none => some ({} : Inventory).store

/-- What the log is told of the store that is opened. -/
def storeWarnings : Option String → List String
  | some _ => []
  | none => [noEntities]

theorem warns_openStore {c : Console} (hc : IsJson c.format) {path : Option String}
    {store : Store} (h : d.store? readers path = some store) :
    (openStore readers c path).Warns d store (storeWarnings path) := by
  cases path with
  | none =>
    cases h
    rw [openStore, c.warning_of_isJson hc]
    exact (Task.warns_warn [noEntities] d).bind_gives
      ((Task.gives_lift rfl).bind (Task.gives_pure _ d))
  | some path =>
    rw [Disk.store?, Option.bind_eq_some_iff] at h
    obtain ⟨content, hcontent, h⟩ := h
    obtain ⟨inventory, hinventory, rfl⟩ := Option.map_eq_some_iff.1 h
    refine ((gives_readDocument (a := content) (by rw [hcontent]; rfl)).bind ?_).warns
    rw [eq_ok_of_mem_toOption hinventory]
    exact (Task.gives_ofExcept inventory d).bind (Task.gives_pure _ d)

/-- The access to a store that a pipeline is given. -/
def accessTo (s : Settings) (a : ApplyArguments) (p : Pipeline) (store : Store) :
    Option LookupAccess :=
  if p.requiresLookup then
    some ⟨store, {
      channelToken := a.channelToken.or s.lookup.channelToken
      languageCode := s.lookup.languageCode }⟩
  else none

/-- What the log is told of the access that a pipeline is given. -/
def accessWarnings (s : Settings) (a : ApplyArguments) (p : Pipeline) : List String :=
  if p.requiresLookup then storeWarnings (a.entities.or s.lookup.entities) else []

theorem warns_openAccess {s : Settings} {c : Console} (hc : IsJson c.format) {a : ApplyArguments}
    {p : Pipeline} {store : Store}
    (h : p.requiresLookup = true →
      d.store? readers (a.entities.or s.lookup.entities) = some store) :
    (openAccess readers s c a p).Warns d (accessTo s a p store) (accessWarnings s a p) := by
  rw [openAccess, accessTo, accessWarnings]
  cases hlookup : p.requiresLookup with
  | false => exact (Task.gives_pure _ d).warns
  | true => exact (warns_openStore hc (h hlookup)).bind_gives (Task.gives_pure _ d)

theorem gives_readBatch {path : String} {content : Value} {batch : Batch}
    (hcontent : d.document? readers .data path = some content)
    (hbatch : Batch.ofValue content = .ok batch) :
    (readBatch readers path).Gives d batch := by
  refine (gives_readDocument (a := content) (by rw [hcontent]; rfl)).bind ?_
  rw [hbatch]
  exact Task.gives_pure batch d

/-- Why results could not be written. -/
def saveFailure (path : String) : SaveFailure → Failure
  | .directory reason => .io reason
  | .file reason => .unwritten path reason

/-- **Results are saved** under a name that asks for JSON, or the disk cannot take them. -/
theorem runOn_saveResults {path : String} (hpath : Language.ofPath path = .json)
    (results : Value) (d : Disk) :
    (saveResults path results).run.runOn d =
      ⟨match (d.save path (String.ofList (Json.indented results))).2 with
        | none => .ok ()
        | some failure => .error (saveFailure path failure),
        "", "", "", (d.save path (String.ofList (Json.indented results))).1⟩ := by
  have hstore (content : String) : (Script.store path content).runOn d =
      ⟨(d.save path content).2, "", "", "", (d.save path content).1⟩ := rfl
  rw [saveResults, hpath, (Task.gives_pure _ d).runOn_bind]
  rw [Task.runOn_bind_of_ok (by rw [Task.runOn_lift]), Task.runOn_lift, hstore, andThen_silent]
  cases (d.save path (String.ofList (Json.indented results))).2 with
  | none => rfl
  | some failure =>
    cases failure with
    | directory reason => rfl
    | file reason => rfl

/-- What is done with results: they are saved, or else printed. -/
def deliver (c : Console) (saveTo : Option String) (results : Value) : Task Unit := do
  match saveTo with
  | some path =>
    saveResults path results
    (c.success ("✓ Records saved to " ++ path) : Script Unit)
  | none =>
    (c.heading "Transformed Records" : Script Unit)
    (Console.result (c.format.render results) : Script Unit)

/-- **Results are saved** under a name that asks for JSON, and nothing is printed. -/
theorem runOn_deliver_save {c : Console} (hc : IsJson c.format) {path : String}
    (hpath : Language.ofPath path = .json) (results : Value) (d : Disk) :
    (deliver c (some path) results).run.runOn d =
      ⟨match (d.save path (String.ofList (Json.indented results))).2 with
        | none => .ok ()
        | some failure => .error (saveFailure path failure),
        "", "", "", (d.save path (String.ofList (Json.indented results))).1⟩ := by
  have hsave := runOn_saveResults hpath results d
  rw [deliver, c.success_of_isJson hc]
  cases hfailure : (d.save path (String.ofList (Json.indented results))).2 with
  | none =>
    rw [hfailure] at hsave
    rw [Task.runOn_bind_of_ok (by rw [hsave]), hsave, andThen_silent]
    rfl
  | some failure =>
    rw [hfailure] at hsave
    rw [ExceptT.run_bind, Script.runOn_bind, hsave]
    rfl

/-- **Results are printed** in JSON, and nothing is saved. -/
theorem runOn_deliver_print {c : Console} (hc : IsJson c.format) {results : Value}
    (hresults : Batch.isObject results = true ∨ results.isArray = true) (d : Disk) :
    (deliver c none results).run.runOn d =
      ⟨.ok (), String.ofList (c.format.render results) ++ "\n", "", "", d⟩ := by
  rw [deliver, c.heading_of_isJson hc]
  rw [(Task.gives_lift rfl).runOn_bind, Task.runOn_lift, Console.result, trimEnd_render hc hresults]
  simp only [Script.say, Script.runOn, String.append_empty]

/-- What is wrong with the log is said on the channel for errors. -/
theorem onlyReads_prepareLog (i : Invocation) (s : Settings) (e : Environment) :
    (prepareLog i s e).OnlyReads := by
  have hlevel (isFilter : Bool) (line : String) :
      (if isFilter then (pure () : Script Unit) else Script.say .error line).OnlyReads := by
    split
    · exact Script.onlyReads_pure ()
    · exact Script.onlyReads_say _
  rw [prepareLog]
  split
  · exact (Script.onlyReads_say _).bind fun _ => hlevel _ _
  · exact (Script.onlyReads_pure ()).bind fun _ => hlevel _ _

/-! ### The command -/

/-- **A command that gets as far as the records:** a command line, with what the command finds
around it, such that everything before the records is read and the pipeline is valid.  Any
command that stops earlier has run no record.  Of the steps and the records nothing is assumed,
nor of the readers of YAML and TOML. -/
structure Application where
  /-- What the command finds around it. -/
  environment : Environment
  /-- The command line. -/
  arguments : List String
  /-- The files. -/
  disk : Disk
  /-- What the command line asks for. -/
  invocation : Invocation
  /-- The arguments of the command. -/
  command : ApplyArguments
  /-- The settings. -/
  settings : Settings
  /-- The format of the results. -/
  format : Report.Format
  /-- The definition of the pipeline. -/
  definition : PipelineDefinition
  /-- The document of records. -/
  content : Value
  /-- The store for lookups. -/
  store : Store
  read_arguments : Invocation.read arguments environment.settings = .ok invocation
  command_eq : invocation.command = .apply command
  load_settings : ((Settings.load environment.readers invocation.settings
    (Settings.directory? environment.ownDirectory environment.home)).run.runOn disk).result =
      .ok settings
  format_eq : formatOf invocation settings = .ok format
  isJson : IsJson format
  read_definition : (disk.document? environment.readers definitionShape command.pipeline).bind
    PipelineDefinition.ofValue? = some definition
  isValid : (Pipeline.ofDefinition definition).validate = .ok ()
  read_content : disk.document? environment.readers .data command.input = some content
  isObject_of_mem : ∀ record ∈ recordsOf content, Batch.isObject record = true
  open_store : (Pipeline.ofDefinition definition).requiresLookup = true →
    disk.store? environment.readers (command.entities.or settings.lookup.entities) = some store

namespace Application

variable (x : Application)

/-- The pipeline. -/
def pipeline : Pipeline :=
  .ofDefinition x.definition

/-- The records. -/
def records : List Value :=
  recordsOf x.content

/-- **One record run through the pipeline,** with the store if the pipeline needs one. -/
def runRecord (record : Value) : Except PipelineError Value :=
  Terminal.runRecord x.pipeline (accessTo x.settings x.command x.pipeline x.store)
    x.environment.now record

/-- **What the log is told** where some records are run: what is missing for lookups, and then
what went wrong with the steps of each record. -/
def log (records : List Value) : String :=
  Script.inLines (accessWarnings x.settings x.command x.pipeline ++
    records.flatMap (recordWarnings x.pipeline
      (accessTo x.settings x.command x.pipeline x.store) x.environment.now))

/-- The settings, as they are loaded. -/
def loading : Outcome (Except Failure Settings) :=
  (Settings.load x.environment.readers x.invocation.settings
    (Settings.directory? x.environment.ownDirectory x.environment.home)).run.runOn x.disk

/-- What is said of the settings, and of how the log is to be kept, before the command
begins. -/
def warnings : String :=
  x.loading.error ++
    ((prepareLog x.invocation x.settings x.environment).runOn x.disk).error

/-- **What the command comes to:** its exit code, what it prints and tells the log, and the
files after it. -/
def outcome : Outcome Nat :=
  (run x.environment x.arguments).runOn x.disk

theorem loading_eq : x.loading = ⟨.ok x.settings, "", x.loading.error, "", x.disk⟩ := by
  have hreads : (Settings.load x.environment.readers x.invocation.settings (Settings.directory?
      x.environment.ownDirectory x.environment.home)).run.OnlyReads := onlyReads_load _ _
  have hload := hreads.runOn_eq x.disk
  rw [x.load_settings] at hload
  exact hload

/-- What an invocation comes to, up to the warnings, is what its command comes to. -/
theorem runOn_invoke {o : Outcome (Except Failure Unit)}
    (h : (applyPipeline x.environment.readers x.settings ⟨x.format, x.invocation.quiet⟩
      x.environment.now x.command).run.runOn x.disk = o) :
    (invoke x.environment x.invocation).run.runOn x.disk =
      ⟨o.result, o.output, x.warnings ++ o.error, o.log, o.disk⟩ := by
  have hload : (Settings.load x.environment.readers x.invocation.settings (Settings.directory?
      x.environment.ownDirectory x.environment.home)).run.runOn x.disk =
      ⟨.ok x.settings, "", x.loading.error, "", x.disk⟩ := x.loading_eq
  have hprepare := (onlyReads_prepareLog x.invocation x.settings x.environment).runOn_eq x.disk
  have hformat : (Task.ofExcept (formatOf x.invocation x.settings)).Gives x.disk x.format := by
    rw [x.format_eq]
    exact Task.gives_ofExcept x.format x.disk
  rw [invoke, Task.runOn_bind_of_ok x.load_settings, hload]
  rw [Task.runOn_bind_of_ok (by rw [Task.runOn_lift]), Task.runOn_lift, hprepare]
  rw [hformat.runOn_bind, x.command_eq, perform, h]
  simp only [Outcome.andThen, warnings, String.empty_append, String.append_assoc]

/-- **What the command comes to,** from what running the pipeline over the records comes to. -/
theorem outcome_eq {o : Outcome (Except Failure Unit)}
    (h : (applyPipeline x.environment.readers x.settings ⟨x.format, x.invocation.quiet⟩
      x.environment.now x.command).run.runOn x.disk = o) :
    x.outcome =
      match o.result with
      | .ok () => ⟨0, o.output, x.warnings ++ o.error, o.log, o.disk⟩
      | .error f => ⟨f.exitCode, o.output, x.warnings ++ o.error ++ f.report, o.log, o.disk⟩ := by
  rw [outcome, run, x.read_arguments]
  dsimp only
  rw [Script.runOn_bind, x.runOn_invoke h]
  cases o.result with
  | ok u =>
    simp only [Outcome.andThen, pure, Script.runOn, String.append_empty]
  | error f =>
    simp only [Outcome.andThen, pure, Script.runOn, String.append_empty]

/-- **Up to the records the command only reads:** what is left of it is the run over the
records, one after the other, and what is done with the outputs.  The log is told of the records
that are run before either. -/
theorem runOn_applyPipeline :
    (applyPipeline x.environment.readers x.settings ⟨x.format, x.invocation.quiet⟩
      x.environment.now x.command).run.runOn x.disk =
    ((Task.ofExcept (((x.records.mapM x.runRecord).map (inForm x.content)).mapError .pipeline) >>=
      deliver ⟨x.format, x.invocation.quiet⟩ x.command.saveTo).run.runOn x.disk).behind
        (x.log (Batch.upToFailure x.runRecord x.records)) := by
  obtain ⟨batch, hbatch, hrecords, htransform⟩ := transform_of_ofValue x.isObject_of_mem
  have hvalid : (Task.ofExcept (x.pipeline.validate.mapError .pipeline)).Gives x.disk () := by
    rw [pipeline, x.isValid]
    exact Task.gives_ofExcept () x.disk
  have hjson : IsJson (Console.mk x.format x.invocation.quiet).format := x.isJson
  have haccess : (openAccess x.environment.readers x.settings ⟨x.format, x.invocation.quiet⟩
      x.command x.pipeline).Warns x.disk (accessTo x.settings x.command x.pipeline x.store)
        (accessWarnings x.settings x.command x.pipeline) :=
    warns_openAccess hjson x.open_store
  rw [applyPipeline, (gives_readDocument x.read_definition).runOn_bind]
  dsimp only
  rw [← pipeline, hvalid.runOn_bind, (gives_readBatch x.read_content hbatch).runOn_bind,
    Console.info_of_isJson hjson, (Task.gives_lift rfl).runOn_bind, haccess.runOn_bind,
    (Task.warns_warn _ x.disk).runOn_bind, Outcome.behind_behind, ← Script.inLines_append,
    htransform, Batch.attempted, hrecords]
  rfl

/-- Where a record fails, so does the command, and does nothing else. -/
theorem outcome_of_error {e : PipelineError} (h : x.records.mapM x.runRecord = .error e) :
    x.outcome =
      ⟨(Failure.pipeline e).exitCode, "", x.warnings ++ (Failure.pipeline e).report,
        x.log (Batch.upToFailure x.runRecord x.records), x.disk⟩ := by
  have hrun := x.runOn_applyPipeline
  have hfails := (Task.fails_ofExcept (.pipeline e) x.disk).bind
    (deliver ⟨x.format, x.invocation.quiet⟩ x.command.saveTo)
  rw [Task.Fails] at hfails
  rw [h] at hrun
  rw [x.outcome_eq (hrun.trans (congrArg (Outcome.behind _) hfails))]
  simp only [Outcome.behind, String.append_empty]

/-- **Where all records succeed,** what is left is to deliver the outputs. -/
theorem runOn_applyPipeline_of_ok {outputs : List Value}
    (h : x.records.mapM x.runRecord = .ok outputs) :
    (applyPipeline x.environment.readers x.settings ⟨x.format, x.invocation.quiet⟩
      x.environment.now x.command).run.runOn x.disk =
    ((deliver ⟨x.format, x.invocation.quiet⟩ x.command.saveTo
      (inForm x.content outputs)).run.runOn x.disk).behind (x.log x.records) := by
  have hgives : (Task.ofExcept (((Except.ok outputs).map (inForm x.content)).mapError
      Failure.pipeline)).Gives x.disk (inForm x.content outputs) := Task.gives_ofExcept _ x.disk
  rw [x.runOn_applyPipeline, h, hgives.runOn_bind, upToFailure_of_forall (exists_eq_ok h)]

/-- **The outputs keep the form of the records.** -/
theorem keepsForm_inForm {outputs : List Value}
    (h : List.Forall₂ (fun record output => x.runRecord record = .ok output) x.records outputs) :
    KeepsForm x.content outputs (inForm x.content outputs) := by
  have hobjects := x.isObject_of_mem
  rw [records] at h
  cases hcontent : x.content with
  | obj fields =>
    rw [hcontent] at h
    cases h with
    | cons houtput hrest =>
      cases hrest
      obtain ⟨kept, hkept⟩ := exists_of_isObject (isObject_runRecord rfl houtput)
      exact Or.inl ⟨fields, kept, rfl, hkept, rfl⟩
  | arr items =>
    rw [hcontent] at h
    exact Or.inr ⟨items, rfl, rfl, h.length_eq.symm⟩
  | _ =>
    rw [hcontent] at hobjects
    exact absurd (hobjects _ (List.mem_singleton_self _)) Bool.false_ne_true

/-- What a command runs over records, if it does. -/
def applyArguments? : Command → Option ApplyArguments
  | .apply a => some a
  | _ => none

theorem eq_apply_of_mem {c : Command} {a : ApplyArguments} (h : a ∈ applyArguments? c) :
    c = .apply a := by
  cases c with
  | apply b => exact congrArg Command.apply (Option.some.inj h)
  | _ => cases h

/-- **The application of a command line,** if the command gets as far as the records. -/
def of? (environment : Environment) (arguments : List String) (disk : Disk) :
    Option Application := do
  let ⟨invocation, hinvocation⟩ ← (Invocation.read arguments environment.settings).toOption.attach
  let ⟨command, hcommand⟩ ← (applyArguments? invocation.command).attach
  let ⟨settings, hsettings⟩ ← ((Settings.load environment.readers invocation.settings
    (Settings.directory? environment.ownDirectory environment.home)).run.runOn
      disk).result.toOption.attach
  let ⟨format, hformat⟩ ← (formatOf invocation settings).toOption.attach
  let ⟨definition, hdefinition⟩ ← ((disk.document? environment.readers definitionShape
    command.pipeline).bind PipelineDefinition.ofValue?).attach
  let ⟨content, hcontent⟩ ← (disk.document? environment.readers .data command.input).attach
  let ⟨store, hstore⟩ ← (if (Pipeline.ofDefinition definition).requiresLookup then
      disk.store? environment.readers (command.entities.or settings.lookup.entities)
    else some ({} : Inventory).store).attach
  if h : IsJson format ∧ (Pipeline.ofDefinition definition).validate = .ok () ∧
      ∀ record ∈ recordsOf content, Batch.isObject record = true then
    return {
      environment, arguments, disk, invocation, command, settings, format, definition, content,
      store
      read_arguments := eq_ok_of_mem_toOption hinvocation
      command_eq := eq_apply_of_mem hcommand
      load_settings := eq_ok_of_mem_toOption hsettings
      format_eq := eq_ok_of_mem_toOption hformat
      isJson := h.1
      read_definition := hdefinition
      isValid := h.2.1
      read_content := hcontent
      isObject_of_mem := h.2.2
      open_store := by
        intro hlookup
        rw [if_pos hlookup] at hstore
        exact hstore }
  else none

end Application

/-- A pipeline for sizes, a file of hats, and a file with the sizes of before.  The first step
is of a kind that there is not, and may fail. -/
def hatFiles (hats : List Value) : Disk :=
  .ofList [
    ("p.json", String.ofList (Json.compact (.obj [("transforms", .arr [
      .obj [("id", .str "0"), ("field", .str "code"), ("type", .str "DYE"),
        ("optional", .bool true)],
      .obj [("id", .str "1"), ("field", .str "code"), ("target", .str "size.text"),
        ("type", .str "TRIM")]])]))),
    ("hats.json", String.ofList (Json.compact (.arr hats))),
    ("out.json", "[]")]

/-- A hat whose size is to be written. -/
def hat (code : String) (size : Value) : Value :=
  .obj [("code", .str code), ("size", size)]

/-- Two hats whose sizes are printed. -/
def twoHats : Application :=
  (Application.of? { now := ⟨0, 0⟩ } ["-o", "json", "apply", "p.json", "-i", "hats.json"]
    (hatFiles [hat " M " .null, hat "L" (.obj [])])).get (by decide +kernel)

/-- Three hats whose sizes are to be saved; that of the second and that of the third cannot be
written. -/
def threeHats : Application :=
  (Application.of? { now := ⟨0, 0⟩ }
    ["apply", "p.json", "-i", "hats.json", "--save-to", "out.json", "-o", "json-pretty"]
    (hatFiles [hat "M" .null, hat "L" (.str "L"), hat "S" (.int 1)])).get (by decide +kernel)

/-- What is printed for the two hats. -/
def twoSizes : String :=
  String.ofList (Json.compact (.arr [hat " M " (.obj [("text", .str "M")]),
    hat "L" (.obj [("text", .str "L")])]))

/-- What stands in the way of the second size of three. -/
def noSize : PipelineError :=
  .configuration "Cannot write 'size.text': 'text' is not inside an object" (some "1")

/-- What the log is told of two hats. -/
def noDye : String :=
  "Optional transform step '0' failed: Unknown transform type: DYE\n" ++
    "Optional transform step '0' failed: Unknown transform type: DYE\n"

/-- What is computed of the two hats. -/
theorem twoHats_facts :
    (twoHats.records.mapM twoHats.runRecord).map (fun outputs =>
        String.ofList (twoHats.format.render (.arr outputs))) = .ok twoSizes ∧
      twoHats.content.isArray = true ∧ twoHats.command.saveTo = none ∧
      twoHats.warnings = "" ∧ twoHats.log twoHats.records = noDye := by
  decide +kernel

/-- What is computed of the three hats. -/
theorem threeHats_facts :
    (∃ h : 1 < threeHats.records.length,
      (threeHats.runRecord threeHats.records[1]).map (fun _ => ()) = .error noSize ∧
        threeHats.log (threeHats.records.take 1 ++ [threeHats.records[1]]) = noDye) ∧
      (∀ earlier ∈ threeHats.records.take 1, (threeHats.runRecord earlier).isOk = true) ∧
      threeHats.command.saveTo = some "out.json" ∧ threeHats.warnings = "" := by
  decide +kernel

end RecordFlow.Terminal
