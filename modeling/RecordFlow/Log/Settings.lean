import RecordFlow.Text.Case
import RecordFlow.Value.Decode

/-!
# Settings of the log

How much is logged and in which layout.  The settings follow from how often more detail
was asked for; a file of settings and then the environment may change them.

## Main definitions

* `Log.Layout` — the layouts, with `Log.Layout.ofName?`.
* `Log.Settings` — the settings.
* `Log.Settings.ofVerbosity` — the settings for a degree of detail.
* `Log.Settings.withFile`, `Log.Settings.withEnvironment` — the changes.
-/

namespace RecordFlow.Log

/-- **The layouts of log lines.** -/
inductive Layout where
  | compact
  | full
  | json
deriving DecidableEq

namespace Layout

/-- The name of a layout. -/
def name : Layout → String
  | compact => "Compact"
  | full => "Full"
  | json => "Json"

/-- The layout that a name is of, in any case. -/
def ofName? (name : String) : Option Layout :=
  match Text.lowered name with
  | "compact" => some compact
  | "full" => some full
  | "json" => some json
  | _ => none

end Layout

/-- **The settings that a file gives.** -/
structure FileSettings where
  /-- The filter of levels. -/
  level : Option String := none
  /-- The name of the layout. -/
  layout : Option String := none
  /-- Whether lines show the time. -/
  timestamps : Bool := true

/-- The settings in a record of data. -/
def FileSettings.ofValue? (v : Value) : Option FileSettings := do
  let o ← v.asRecord? ["level", "format", "timestamps"]
  return {
    level := ← o.optional "level" Value.asString?
    layout := ← o.optional "format" Value.asString?
    timestamps := ← o.withDefault "timestamps" true Value.asBool? }

/-- **The settings of the log.** -/
structure Settings where
  /-- The filter of levels. -/
  level : String := "warn"
  /-- The layout of lines. -/
  layout : Layout := .compact
  /-- Whether lines go to the console. -/
  console : Bool := true
  /-- Whether lines show the time. -/
  timestamps : Bool := true
  /-- Whether lines show the thread. -/
  threadIds : Bool := false
  /-- Whether lines show the place in the program. -/
  sourceLocation : Bool := false

namespace Settings

/-- **The settings for a degree of detail.** -/
def ofVerbosity : Nat → Settings
  | 0 => {}
  | 1 => { level := "info" }
  | 2 => { level := "debug", sourceLocation := true }
  | _ => { level := "trace", layout := .full, sourceLocation := true, threadIds := true }

/-- **The settings changed by a file.**  Its level counts only where no detail was asked
for, and its layout only if there is one of this name. -/
def withFile (s : Settings) (file : FileSettings) (verbosity : Nat) : Settings :=
  { s with
    level := if verbosity = 0 then file.level.getD s.level else s.level
    layout := (file.layout.bind Layout.ofName?).getD s.layout
    timestamps := file.timestamps }

/-- **The settings changed by the environment.** -/
def withEnvironment (s : Settings) (level layout : Option String) : Settings :=
  { s with
    level := level.getD s.level
    layout := (layout.bind Layout.ofName?).getD s.layout }

/-- The name of a layout that there is not. -/
def unknownLayout? (layout : Option String) : Option String :=
  layout.filter fun name => (Layout.ofName? name).isNone

/-- The settings as an object of data. -/
def toValue (s : Settings) : Value :=
  .obj (Fields.ofList [
    ("level", .str s.level),
    ("format", .str s.layout.name),
    ("console", .bool s.console),
    ("timestamps", .bool s.timestamps),
    ("thread_ids", .bool s.threadIds),
    ("source_location", .bool s.sourceLocation)])

end Settings

end RecordFlow.Log
