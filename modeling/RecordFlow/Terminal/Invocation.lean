import RecordFlow.Report.Format
import RecordFlow.Terminal.Grammar

/-!
# Invocations

What the command line asks for: one of the commands with its arguments, and what all
commands share.

    apply PIPELINE --input FILE [--entities FILE] [--channel-token TEXT] [--save-to FILE]
    eval condition|expression SOURCE [--value JSON] [--record JSON]
    transform KIND [--value JSON] [--options JSON] [--record JSON]
    list
    completions SHELL

## Main definitions

* `Terminal.Command` — what is to be done.
* `Terminal.Invocation` — a command with what all commands share.
* `Terminal.rule` — the grammar of the command line.
* `Terminal.Invocation.read` — the invocation of a command line.
-/

namespace RecordFlow.Terminal

/-- **The arguments for running a pipeline over records.** -/
structure ApplyArguments where
  /-- The path of the pipeline. -/
  pipeline : String
  /-- The path of the records. -/
  input : String
  /-- The path of the entities. -/
  entities : Option String := none
  /-- The token of a channel. -/
  channelToken : Option String := none
  /-- Where the results are written. -/
  saveTo : Option String := none
deriving DecidableEq

/-- **What can be evaluated.** -/
inductive Target where
  | condition
  | expression
deriving DecidableEq

/-- **What is to be done.** -/
inductive Command where
  /-- Run a pipeline over records. -/
  | apply (a : ApplyArguments)
  /-- Evaluate a condition or an expression. -/
  | evaluate (target : Target) (source : String) (value record : Option String)
  /-- Carry out one step. -/
  | transform (kind : String) (value options record : Option String)
  /-- List the kinds of steps. -/
  | list
  /-- Print completions for a shell. -/
  | completions (shell : String)
deriving DecidableEq

/-- **A command with what all commands share.** -/
structure Invocation where
  /-- How much detail is asked for. -/
  verbosity : Nat := 0
  /-- Whether only the essential is printed. -/
  quiet : Bool := false
  /-- The path of the settings. -/
  settings : Option String := none
  /-- The format of the results. -/
  format : Option Report.Format := none
  /-- The command. -/
  command : Command
deriving DecidableEq

/-! ### The grammar -/

/-- A path is not empty. -/
def isPath (s : String) : Bool :=
  !s.isEmpty

/-- Any text. -/
def isText (_ : String) : Bool :=
  true

/-- The shells that there are completions for. -/
def shells : List String :=
  ["bash", "zsh", "fish", "power-shell", "elvish"]

/-- The options that all commands share. -/
def sharedOptions : List OptionRule := [
  { long := "verbose", short := some 'v', form := .counter },
  { long := "quiet", short := some 'q', form := .switch },
  { long := "config", short := some 'c', form := .value isPath },
  { long := "output", short := some 'o',
    form := .value fun name => (Report.Format.ofName? name).isSome },
  { long := "no-color", form := .switch }]

/-- The options that exclude each other. -/
def conflicts : List (String × String) :=
  [("quiet", "verbose")]

/-- An option whose value is any text. -/
def textOption (long : String) : OptionRule :=
  { long := long, form := .value isText }

/-- A command with options of its own and without subcommands. -/
def leafRule (options : List OptionRule) (operands : List (String → Bool)) : CommandRule :=
  .mk (sharedOptions ++ options) operands []

/-- A command with subcommands. -/
def branchRule (subcommands : List (String × CommandRule)) : CommandRule :=
  .mk sharedOptions [] subcommands

/-- The command that runs a pipeline over records. -/
def applyRule : CommandRule :=
  leafRule [
    { long := "input", short := some 'i', form := .value isPath, isRequired := true },
    { long := "entities", short := some 'e', form := .value isPath },
    textOption "channel-token",
    { long := "save-to", form := .value isPath }] [isPath]

/-- The command that evaluates a condition or an expression. -/
def evaluateRule : CommandRule :=
  leafRule [textOption "value", textOption "record"] [isText]

/-- The command that carries out one step. -/
def transformRule : CommandRule :=
  leafRule [textOption "value", textOption "options", textOption "record"] [isText]

/-- **The grammar of the command line.** -/
def rule : CommandRule :=
  branchRule [
    ("apply", applyRule),
    ("eval", branchRule [("condition", evaluateRule), ("expression", evaluateRule)]),
    ("transform", transformRule),
    ("list", leafRule [] []),
    ("completions", leafRule [] [shells.contains])]

/-! ### Reading -/

/-- The command that the names of the subcommands and the innermost level spell. -/
def commandOf? (names : List String) (g : Given) : Option Command :=
  match names, g.operands with
  | ["apply"], [pipeline] =>
    (g.values.lookup "input").map fun input =>
      .apply {
        pipeline := pipeline, input := input, entities := g.values.lookup "entities"
        channelToken := g.values.lookup "channel-token"
        saveTo := g.values.lookup "save-to" }
  | ["eval", "condition"], [source] =>
    some (.evaluate .condition source (g.values.lookup "value") (g.values.lookup "record"))
  | ["eval", "expression"], [source] =>
    some (.evaluate .expression source (g.values.lookup "value") (g.values.lookup "record"))
  | ["transform"], [kind] =>
    some (.transform kind (g.values.lookup "value") (g.values.lookup "options")
      (g.values.lookup "record"))
  | ["list"], [] => some .list
  | ["completions"], [shell] => some (.completions shell)
  | _, _ => none

/-- The value of a shared option on the innermost level that has it. -/
def innermost? (long : String) (levels : List Given) : Option String :=
  levels.reverse.findSome? (·.values.lookup long)

/-- The invocation of what was given on all levels. -/
def Invocation.ofLevels? (names : List String) (levels : List Given)
    (settings : Option String) : Option Invocation := do
  let inner ← levels.getLast?
  let command ← commandOf? names inner
  return {
    verbosity := ((levels.reverse.find? (·.has "verbose")).map (·.count "verbose")).getD 0
    quiet := levels.any (·.has "quiet")
    settings := (innermost? "config" levels).or settings
    format := (innermost? "output" levels).bind Report.Format.ofName?
    command := command }

/-- **The invocation of a command line.**  The path of the settings may come from the
environment, on every level that does not give one, and must not be empty there
either. -/
def Invocation.read (arguments : List String) (settings : Option String) :
    Except Stop Invocation :=
  match rule.read conflicts settings.isSome 4 arguments with
  | .error stop => .error stop
  | .ok (names, levels) =>
    if settings.any (!isPath ·) && levels.any (!·.has "config") then
      .error (.misuse "invalid value '' for --config")
    else
      match Invocation.ofLevels? names levels settings with
      | some invocation => .ok invocation
      | none => .error (.misuse "required arguments are missing")

end RecordFlow.Terminal
