import RecordFlow.Pipeline.Run

/-!
# Failures of commands

Why a command ends early, with the message that is printed and the exit code.

## Main definitions

* `Terminal.Failure` — why a command ends early.
* `Terminal.Failure.message`, `Terminal.Failure.exitCode` — what is printed and returned.
* `Terminal.Failure.report` — all that is printed.
-/

namespace RecordFlow.Terminal

/-- **Why a command ends early.** -/
inductive Failure where
  /-- A file could not be read, or a directory not be made. -/
  | io (reason : String)
  /-- A pipeline is not valid, or a run failed. -/
  | pipeline (e : PipelineError)
  /-- There is no such file. -/
  | missingFile (path : String)
  /-- A file does not hold what is expected. -/
  | badFile (path expected reason : String)
  /-- The settings are not as they should be. -/
  | settings (reason : String)
  /-- An argument is not as it should be. -/
  | arguments (reason : String)
  /-- There is no such kind of step. -/
  | unknownKind (name : String)
  /-- The entities are not given as they should be. -/
  | lookup (e : LookupError)
  /-- A file could not be written. -/
  | unwritten (path reason : String)

namespace Failure

/-- The failure in words. -/
def message : Failure → String
  | io reason => "IO error: " ++ reason
  | pipeline e => e.message
  | missingFile path => "File not found: " ++ path
  | badFile path expected reason =>
    "Invalid file format for " ++ path ++ ": expected " ++ expected ++ " (" ++ reason ++ ")"
  | settings reason => "Configuration error: " ++ reason
  | arguments reason => "Invalid arguments: " ++ reason
  | unknownKind name =>
    "Unknown transform '" ++ name ++
      "'. Run 'pipeform list' to see the built-in transforms"
  | lookup e => "Lookup error: " ++ e.message
  | unwritten path reason => "Writing " ++ path ++ ": IO error: " ++ reason

/-- The exit code. -/
def exitCode : Failure → Nat
  | io _ => 1
  | pipeline _ => 2
  | missingFile _ => 3
  | badFile _ _ _ => 4
  | settings _ => 5
  | arguments _ => 6
  | unknownKind _ => 7
  | lookup _ => 8
  | unwritten _ _ => 99

/-- The step that the failure is about. -/
def step? : Failure → Option String
  | pipeline (.configuration _ step) => step
  | _ => none

/-- Where help is to be found, if that may help. -/
def hint : Failure → String
  | arguments _ => "\nFor more information, try '--help'\n"
  | _ => ""

/-- **All that is printed:** the failure in words, the step that it is about, and where
help is to be found. -/
def report (f : Failure) : String :=
  "Error: " ++ f.message ++
    ((f.step?.map fun step => " (step '" ++ step ++ "')").getD "") ++ "\n" ++ f.hint

end Failure

end RecordFlow.Terminal
