import RecordFlow.Log.Settings
import RecordFlow.Terminal.Document

/-!
# Settings

Settings come from the file that the command line names, or else from the first file in
the usual places that can be read.

## Main definitions

* `Terminal.Settings` — the settings.
* `Terminal.Settings.ofValue?` — the settings in a record of data.
* `Terminal.Settings.load` — the settings that count.
-/

namespace RecordFlow.Terminal

/-- **Settings of the output.** -/
structure OutputSettings where
  /-- The name of the format. -/
  format : String := "human"
  /-- Whether colours are used. -/
  color : Bool := true
  /-- Whether progress is shown. -/
  progress : Bool := true

/-- **Settings of lookups.** -/
structure LookupSettings where
  /-- The path of the entities. -/
  entities : Option String := none
  /-- The token of a channel. -/
  channelToken : Option String := none
  /-- The code of a language. -/
  languageCode : Option String := none

/-- **Settings.** -/
structure Settings where
  /-- Settings of the output. -/
  output : OutputSettings := {}
  /-- Settings of the log. -/
  logging : Log.FileSettings := {}
  /-- Settings of lookups. -/
  lookup : LookupSettings := {}

/-- The settings of the output in a record of data. -/
def OutputSettings.ofValue? (v : Value) : Option OutputSettings := do
  let o ← v.asRecord? ["format", "color", "progress"]
  return {
    format := ← o.withDefault "format" "human" Value.asString?
    color := ← o.withDefault "color" true Value.asBool?
    progress := ← o.withDefault "progress" true Value.asBool? }

/-- The settings of lookups in a record of data. -/
def LookupSettings.ofValue? (v : Value) : Option LookupSettings := do
  let o ← v.asRecord? ["entities", "channel_token", "language_code"]
  return {
    entities := ← o.optional "entities" Value.asString?
    channelToken := ← o.optional "channel_token" Value.asString?
    languageCode := ← o.optional "language_code" Value.asString? }

namespace Settings

/-- **The settings in a record of data.**  Every section may be left out. -/
def ofValue? (v : Value) : Option Settings := do
  let o ← v.asRecord? ["output", "logging", "lookup"]
  return {
    output := ← o.withDefault "output" {} OutputSettings.ofValue?
    logging := ← o.withDefault "logging" {} Log.FileSettings.ofValue?
    lookup := ← o.withDefault "lookup" {} LookupSettings.ofValue? }

/-- What settings are read for. -/
def shape : Shape :=
  .record [
    ("output", .record [("format", .text), ("color", .data), ("progress", .data)]),
    ("logging", .record [("level", .optionalText), ("format", .optionalText),
      ("timestamps", .data)]),
    ("lookup", .record [("entities", .optionalText), ("channel_token", .optionalText),
      ("language_code", .optionalText)])]

/-- The settings in a file. -/
def ofFile (readers : Readers) (path : String) : Task Settings :=
  tryCatch (readDocument readers shape ofValue? path) fun
    | .missingFile path =>
      Task.fail (.settings ("configuration file " ++ path ++ " does not exist"))
    | failure => Task.fail failure

/-- The directory of a user's settings: one of its own if it is given as a full path, or
else one in the user's home. -/
def directory? (own home : Option String) : Option String :=
  (own.filter (·.startsWith "/")).or
    ((home.filter (!·.isEmpty)).map fun path => path ++ "/.config")

/-- The usual places of settings. -/
def usualPaths (directory : Option String) : List String :=
  ["pipeform.toml", "pipeform.yaml", "pipeform.json"] ++
    directory.toList.flatMap fun path =>
      ["config.toml", "config.yaml", "config.json"].map fun name =>
        path ++ "/pipeform/" ++ name

/-- The settings in the first of some files that can be read, with a warning for each
that cannot. -/
def firstOf (readers : Readers) : List String → Script Settings
  | [] => pure {}
  | path :: rest => do
    match ← Script.look path with
    | .missing => firstOf readers rest
    | _ =>
      match ← (ofFile readers path).run with
      | .ok s => return s
      | .error failure =>
        Script.say .error
          ("Warning: Failed to load config from " ++ path ++ ": " ++ failure.message)
        firstOf readers rest

/-- **The settings that count:** those in the named file, or in the usual places. -/
def load (readers : Readers) (named directory : Option String) : Task Settings :=
  match named with
  | some path => ofFile readers path
  | none => (firstOf readers (usualPaths directory) : Script Settings)

end Settings

end RecordFlow.Terminal
