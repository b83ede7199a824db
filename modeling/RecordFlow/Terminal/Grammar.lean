/-!
# Grammars of command lines

A command takes options, operands and subcommands.  Options are written `--long`,
`--long value`, `--long=value`, or in clusters of short names such as `-vqo value`; after
`--` everything is an operand.  An option that is not a counter is given at most once,
and some values are not acceptable.

An option that a command shares with all its subcommands may be given on any level; the
innermost one counts.

## Main definitions

* `Terminal.OptionRule`, `Terminal.CommandRule` — a grammar.
* `Terminal.Stop` — why reading a command line ends early.
* `Terminal.Given` — what was given on one level.
* `Terminal.CommandRule.scan` — what is given on one level, up to a subcommand.
* `Terminal.CommandRule.read` — what is given on all levels.
-/

namespace RecordFlow.Terminal

/-- **How an option is given.** -/
inductive OptionForm where
  /-- Once, without a value. -/
  | switch
  /-- Any number of times, without a value. -/
  | counter
  /-- Once, with a value that is acceptable. -/
  | value (accepts : String → Bool)

/-- **An option.** -/
structure OptionRule where
  /-- Its long name. -/
  long : String
  /-- Its short name, if it has one. -/
  short : Option Char := none
  /-- How it is given. -/
  form : OptionForm
  /-- Whether it must be given. -/
  isRequired : Bool := false

/-- **A command.** -/
inductive CommandRule where
  /-- A command with its options, its required operands with what is acceptable for each,
  and its subcommands by name. -/
  | mk (options : List OptionRule) (operands : List (String → Bool))
      (subcommands : List (String × CommandRule))

namespace CommandRule

/-- The options of a command. -/
def options : CommandRule → List OptionRule
  | mk options _ _ => options

/-- What is acceptable for each operand. -/
def operands : CommandRule → List (String → Bool)
  | mk _ operands _ => operands

/-- The names of the subcommands, with the one for help wherever there are others. -/
def subcommandNames : CommandRule → List String
  | mk _ _ [] => []
  | mk _ _ subcommands => "help" :: subcommands.map (·.1)

end CommandRule

/-- **Why reading a command line ends early.** -/
inductive Stop where
  /-- The line is not as it should be. -/
  | misuse (reason : String)
  /-- Nothing was given where something must be, so help is shown instead. -/
  | bare
  /-- Help was asked for. -/
  | help
  /-- The version was asked for. -/
  | version
deriving DecidableEq

/-- **What was given on one level.** -/
structure Given where
  /-- The long names of options without a value, once for every time. -/
  switches : List String := []
  /-- The values of options. -/
  values : List (String × String) := []
  /-- The operands. -/
  operands : List String := []

namespace Given

/-- Whether an option was given. -/
def has (g : Given) (long : String) : Bool :=
  g.switches.contains long || (g.values.lookup long).isSome

/-- Whether no option was given. -/
def lacksOptions (g : Given) : Bool :=
  g.switches.isEmpty && g.values.isEmpty

/-- How often a switch or counter was given. -/
def count (g : Given) (long : String) : Nat :=
  g.switches.count long

/-- An option without a value is given. -/
def addSwitch (g : Given) (rule : OptionRule) : Except Stop Given :=
  match rule.form with
  | .value _ => .error (.misuse ("a value is required for --" ++ rule.long))
  | .counter => .ok { g with switches := g.switches ++ [rule.long] }
  | .switch =>
    if g.has rule.long then .error (.misuse ("--" ++ rule.long ++ " is given twice"))
    else .ok { g with switches := g.switches ++ [rule.long] }

/-- An option with a value is given. -/
def addValue (g : Given) (rule : OptionRule) (value : String) : Except Stop Given :=
  match rule.form with
  | .value accepts =>
    if g.has rule.long then .error (.misuse ("--" ++ rule.long ++ " is given twice"))
    else if accepts value then .ok { g with values := g.values ++ [(rule.long, value)] }
    else .error (.misuse ("invalid value '" ++ value ++ "' for --" ++ rule.long))
  | _ => .error (.misuse ("unexpected value '" ++ value ++ "' for --" ++ rule.long))

/-- An operand is given. -/
def addOperand (g : Given) (rules : List (String → Bool)) (operand : String) :
    Except Stop Given :=
  match rules[g.operands.length]? with
  | none => .error (.misuse ("unexpected argument '" ++ operand ++ "'"))
  | some accepts =>
    if accepts operand then .ok { g with operands := g.operands ++ [operand] }
    else .error (.misuse ("invalid value '" ++ operand ++ "'"))

end Given

/-- **What an argument that begins with a minus sign comes to.** -/
inductive Reading where
  /-- All of it is read. -/
  | complete (g : Given)
  /-- The next argument is the value of this option. -/
  | awaits (g : Given) (rule : OptionRule)

/-- The name and the value of a long option; the value stands after an equals sign. -/
def splitLong (s : List Char) : String × Option String :=
  (String.ofList (s.takeWhile (· != '=')),
    match s.dropWhile (· != '=') with
    | [] => none
    | _ :: value => some (String.ofList value))

namespace CommandRule

/-- What stops at an option that there is not. -/
def unknownOption (name : String) : Stop :=
  .misuse ("unexpected argument '" ++ name ++ "'")

/-- A long option, without the two minus signs. -/
def readLong (c : CommandRule) (g : Given) (s : List Char) : Except Stop Reading :=
  let (name, value?) := splitLong s
  match c.options.find? (·.long == name) with
  | none =>
    if name = "help" ∧ value?.isNone then .error .help
    else if name = "version" ∧ value?.isNone then .error .version
    else .error (unknownOption ("--" ++ name))
  | some rule =>
    match rule.form, value? with
    | .value _, none => .ok (.awaits g rule)
    | _, none => (g.addSwitch rule).map .complete
    | _, some value => (g.addValue rule value).map .complete

/-- A cluster of short options, without the minus sign.  What follows an option that
takes a value is the value. -/
def readCluster (c : CommandRule) (g : Given) : List Char → Except Stop Reading
  | [] => .ok (.complete g)
  | name :: rest =>
    match c.options.find? (·.short == some name) with
    | none =>
      if name = 'h' then .error .help
      else if name = 'V' then .error .version
      else .error (unknownOption (String.ofList ['-', name]))
    | some rule =>
      match rule.form, rest with
      | .value _, [] => .ok (.awaits g rule)
      | .value _, '=' :: value => (g.addValue rule (String.ofList value)).map .complete
      | .value _, value => (g.addValue rule (String.ofList value)).map .complete
      | _, rest =>
        match g.addSwitch rule with
        | .error stop => .error stop
        | .ok next => c.readCluster next rest

/-- Whether an argument stands for itself and not for options. -/
def isPlain (argument : String) : Bool :=
  argument.toList.head? != some '-' || argument == "-"

/-- **What is given on one level,** up to the name of a subcommand, and what follows
that name. -/
def scan (c : CommandRule) (g : Given) :
    List String → Except Stop (Given × Option (String × List String))
  | [] => .ok (g, none)
  | argument :: rest =>
    if c.subcommandNames.contains argument then .ok (g, some (argument, rest))
    else if argument = "--" then
      (rest.foldlM (fun (h : Given) operand => h.addOperand c.operands operand) g).map
        (·, none)
    else
      let reading :=
        match argument.toList with
        | '-' :: '-' :: s => c.readLong g s
        | '-' :: s =>
          if s.isEmpty then (g.addOperand c.operands argument).map .complete
          else c.readCluster g s
        | _ => (g.addOperand c.operands argument).map .complete
      match reading, rest with
      | .error stop, _ => .error stop
      | .ok (.complete next), rest => c.scan next rest
      | .ok (.awaits _ rule), [] =>
        .error (.misuse ("a value is required for --" ++ rule.long))
      | .ok (.awaits next rule), value :: more =>
        if isPlain value then
          match next.addValue rule value with
          | .error stop => .error stop
          | .ok next => c.scan next more
        else .error (.misuse ("a value is required for --" ++ rule.long))

/-- Whether everything required is there on one level, and no two options that exclude
each other.  A command with subcommands needs one. -/
def check (c : CommandRule) (conflicts : List (String × String)) (anyGiven : Bool) (g : Given)
    (hasSubcommand : Bool) : Except Stop Unit :=
  if !c.subcommandNames.isEmpty && !hasSubcommand then
    if g.lacksOptions && !anyGiven then .error .bare
    else .error (.misuse "a subcommand is required")
  else if conflicts.any fun (a, b) => g.has a && g.has b then
    .error (.misuse "arguments exclude each other")
  else if g.operands.length < c.operands.length ||
      c.options.any (fun rule => rule.isRequired && !g.has rule.long) then
    .error (.misuse "required arguments are missing")
  else .ok ()

/-- What follows the subcommand for help: names of subcommands on the way to one. -/
def readHelp (c : CommandRule) : List String → Stop
  | [] => .help
  | name :: rest =>
    match c with
    | mk _ _ subcommands =>
      match subcommands.lookup name with
      | some inner => inner.readHelp rest
      | none => if name = "help" ∧ rest.isEmpty then .help else unknownOption name

/-- **What is given on all levels,** the outermost first, with the names of the
subcommands.  `anyGiven` says whether something was given otherwise; `fuel` bounds the
number of levels. -/
def read (conflicts : List (String × String)) (anyGiven : Bool) :
    Nat → CommandRule → List String → Except Stop (List String × List Given)
  | 0, _, _ => .error (.misuse "too many levels")
  | fuel + 1, mk options operands subcommands, arguments =>
    let c := mk options operands subcommands
    match c.scan {} arguments with
    | .error stop => .error stop
    | .ok (g, none) => (c.check conflicts anyGiven g false).map fun _ => ([], [g])
    | .ok (g, some (name, rest)) =>
      if name = "help" then .error (c.readHelp rest)
      else
        match subcommands.lookup name with
        | none => .error (unknownOption name)
        | some inner =>
          match read conflicts anyGiven fuel inner rest with
          | .error stop => .error stop
          | .ok (names, levels) =>
            (c.check conflicts anyGiven g true).map fun _ => (name :: names, g :: levels)

end CommandRule

end RecordFlow.Terminal
