import RecordFlow.Formula.Expression
import RecordFlow.Log.Filter
import RecordFlow.Report.Catalogue
import RecordFlow.Report.Evaluation
import RecordFlow.Step.Handler
import RecordFlow.Terminal.Apply

/-!
# Running commands

A command line is read, the settings are loaded, and the command is carried out.  What
it comes to is an exit code; everything else that happens is in the script.

## Main definitions

* `Terminal.Environment` — what the command finds around it.
* `Terminal.perform` — the effect of a command.
* `Terminal.run` — the effect of a command line, with the exit code.
-/

namespace RecordFlow.Terminal

/-- **What a command finds around it.** -/
structure Environment where
  /-- The path of the settings. -/
  settings : Option String := none
  /-- The filter of log levels. -/
  logLevel : Option String := none
  /-- The layout of log lines. -/
  logLayout : Option String := none
  /-- The directory of settings. -/
  ownDirectory : Option String := none
  /-- The user's home. -/
  home : Option String := none
  /-- The present instant. -/
  now : Calendar.Instant
  /-- The readers of YAML and TOML. -/
  readers : Readers := {}

/-! ### Evaluating -/

/-- The value that an argument spells: data in JSON, or else the text itself. -/
def valueArgument : Option String → Value
  | none => .null
  | some text => (Json.read? text.toList).getD (.str text)

/-- The value of an argument that must be data in JSON. -/
def dataArgument (name : String) : Option String → Except Failure (Option Value)
  | none => .ok none
  | some text =>
    match Json.read? text.toList with
    | some v => .ok (some v)
    | none => .error (.arguments ("--" ++ name ++ " is not valid JSON: " ++ unfit))

/-- The report on a condition or an expression. -/
def evaluate (target : Target) (source : String) (value record : Option String) :
    Except Failure Report.Evaluation := do
  let input := valueArgument value
  let surrounding ← dataArgument "record" record
  let text := source.toList
  return {
    kind := match target with
      | .condition => "condition"
      | .expression => "expression"
    source := some source
    input := input
    result := match target with
      | .condition => .bool (Formula.conditionHolds text input surrounding)
      | .expression => Formula.expressionValue text input surrounding }

/-- The options that an argument spells. -/
def optionsArgument (text : Option String) : Except Failure Options := do
  match ← dataArgument "options" text with
  | none => return {}
  | some v =>
    match Options.ofValue? v with
    | some options => return options
    | none =>
      throw (.arguments ("--options is not a transform configuration: " ++ unfit))

/-- The report on one step; its kind is named in any case. -/
def carryOut (now : Calendar.Instant) (kind : String) (value options record : Option String) :
    Except Failure Report.Evaluation := do
  let identifier := Text.uppered kind
  match StepKind.ofIdentifier? identifier with
  | none => throw (.unknownKind kind)
  | some known =>
    match known.handler? with
    | none =>
      throw (.arguments
        "LOOKUP needs an entity store; use it inside a pipeline with 'pipeform apply --entities'")
    | some handler =>
      let input := valueArgument value
      let settings ← optionsArgument options
      let surrounding ← dataArgument "record" record
      return {
        kind := identifier
        source := none
        input := input
        result := handler settings ⟨surrounding, now⟩ input }

/-! ### Commands -/

/-- The names that a shell may complete. -/
def completions : String :=
  "apply eval transform list completions help\n"

/-- **The effect of a command.** -/
def perform (e : Environment) (s : Settings) (c : Console) : Command → Task Unit
  | .apply a => applyPipeline e.readers s c e.now a
  | .evaluate target source value record => do
    let report ← Task.ofExcept (evaluate target source value record)
    (Console.result (report.render c.format) : Script Unit)
  | .transform kind value options record => do
    let report ← Task.ofExcept (carryOut e.now kind value options record)
    (Console.result (report.render c.format) : Script Unit)
  | .list => (Console.result (Report.renderCatalogue c.format) : Script Unit)
  | .completions _ => (Script.print .output completions (pure ()) : Script Unit)

/-- The settings of the log. -/
def logSettings (i : Invocation) (s : Settings) (e : Environment) : Log.Settings :=
  let verbosity := if i.quiet then 0 else i.verbosity
  let settings := ((Log.Settings.ofVerbosity verbosity).withFile s.logging verbosity)
    |>.withEnvironment e.logLevel e.logLayout
  if i.quiet then { settings with level := "error", console := false } else settings

/-- What is wrong with the log is said, and hinders nothing. -/
def prepareLog (i : Invocation) (s : Settings) (e : Environment) : Script Unit := do
  match Log.Settings.unknownLayout? e.logLayout with
  | some name =>
    Script.say .error ("Warning: Invalid log format '" ++ name ++ "', using default")
  | none => pure ()
  let level := (logSettings i s e).level
  if Log.isFilter level then pure ()
  else
    Script.say .error
      ("Failed to initialize logging: Configuration error: Invalid log filter '" ++ level ++ "'")

/-- The format of the results: that of the command line, or else that of the settings. -/
def formatOf (i : Invocation) (s : Settings) : Except Failure Report.Format :=
  match i.format with
  | some format => .ok format
  | none =>
    match Report.Format.ofNameAnyCase? s.output.format with
    | some format => .ok format
    | none => .error (.settings ("unknown output format '" ++ s.output.format ++ "'"))

/-- The effect of an invocation. -/
def invoke (e : Environment) (i : Invocation) : Task Unit := do
  let s ← Settings.load e.readers i.settings (Settings.directory? e.ownDirectory e.home)
  (prepareLog i s e : Script Unit)
  let format ← Task.ofExcept (formatOf i s)
  perform e s ⟨format, i.quiet⟩ i.command

/-! ### Command lines -/

/-- How the command line is to be written. -/
def usage : String :=
  "Usage: pipeform [OPTIONS] <COMMAND>\n\n" ++
  "Commands:\n" ++
  "  apply PIPELINE --input FILE [--entities FILE] [--channel-token TEXT] [--save-to FILE]\n" ++
  "  eval condition|expression SOURCE [--value JSON] [--record JSON]\n" ++
  "  transform TYPE [--value JSON] [--options JSON] [--record JSON]\n" ++
  "  list\n" ++
  "  completions SHELL\n\n" ++
  "Options:\n" ++
  "  -v, --verbose          more detail in the log\n" ++
  "  -q, --quiet            only the essential\n" ++
  "  -c, --config FILE      the file of settings\n" ++
  "  -o, --output FORMAT    human, json, yaml or json-pretty\n" ++
  "      --no-color         no colours\n" ++
  "  -h, --help             this text\n" ++
  "  -V, --version          the version\n"

/-- What is printed where reading the command line ends early, and the exit code. -/
def stopped : Stop → Script Nat
  | .misuse reason => do
    Script.say .error ("error: " ++ reason)
    return 2
  | .bare => Script.print .error usage (pure 2)
  | .help => Script.print .output usage (pure 0)
  | .version => Script.print .output "pipeform 0.1.0\n" (pure 0)

/-- **The effect of a command line,** with the exit code. -/
def run (e : Environment) (arguments : List String) : Script Nat :=
  match Invocation.read arguments e.settings with
  | .error stop => stopped stop
  | .ok i => do
    match ← (invoke e i).run with
    | .ok () => return 0
    | .error failure =>
      Script.print .error failure.report (pure failure.exitCode)

end RecordFlow.Terminal
