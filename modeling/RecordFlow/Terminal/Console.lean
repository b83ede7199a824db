import RecordFlow.Report.Format
import RecordFlow.Terminal.Script
import RecordFlow.Text.Blank

/-!
# The console

What is printed besides results is meant for a reader: it is left out in the formats of
data, and nearly all of it where only the essential is asked for.

## Main definitions

* `Terminal.Console` — how results are printed.
* `Terminal.Console.info`, `success`, `warning`, `heading` — what is said to a reader.
* `Terminal.Console.result` — a result printed.
-/

namespace RecordFlow.Terminal

/-- **How results are printed.** -/
structure Console where
  /-- The format. -/
  format : Report.Format
  /-- Whether only the essential is printed. -/
  quiet : Bool

namespace Console

/-- Whether a reader is told more than the essential. -/
def isTalkative (c : Console) : Bool :=
  !c.quiet && c.format == .human

/-- What goes on. -/
def info (c : Console) (message : String) : Script Unit :=
  if c.isTalkative then Script.say .output ("INFO: " ++ message) else pure ()

/-- What has been done. -/
def success (c : Console) (message : String) : Script Unit :=
  if c.isTalkative then Script.say .output message else pure ()

/-- What may be wrong; this is essential. -/
def warning (c : Console) (message : String) : Script Unit :=
  if c.format == .human then Script.say .output ("WARNING: " ++ message) else pure ()

/-- A heading, after an empty line. -/
def heading (c : Console) (title : String) : Script Unit :=
  if c.isTalkative then Script.say .output ("\n=== " ++ title ++ " ===") else pure ()

/-- **A result,** without white space at its end. -/
def result (text : List Char) : Script Unit :=
  Script.say .output (String.ofList (Text.trimEnd text))

end Console

end RecordFlow.Terminal
