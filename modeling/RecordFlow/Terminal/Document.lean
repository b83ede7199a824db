import RecordFlow.Json.Printer
import RecordFlow.Json.Reader
import RecordFlow.Terminal.Failure
import RecordFlow.Terminal.Script
import RecordFlow.Toml.Reader
import RecordFlow.Yaml.Printer
import RecordFlow.Yaml.Reader

/-!
# Documents

Data in files is in JSON, YAML or TOML, by the extension of the file's name; JSON is also what a
file with any other name holds.

JSON is read as told in `Json.readAs?`.  YAML and TOML are large languages, and what is read of
them is up to readers that a command is given.  Those that are at hand read the plain documents
that settings and pipelines are usually written in; nothing about commands depends on them.

## Main definitions

* `Terminal.Language` — the three languages.
* `Terminal.Language.ofPath` — the language of a file.
* `Terminal.Readers` — the readers of YAML and TOML.
* `Terminal.Language.read?` — the value that a text spells.
* `Terminal.readDocument` — the data in a file.
-/

namespace RecordFlow.Terminal

/-- **The languages of documents.** -/
inductive Language where
  | json
  | yaml
  | toml
deriving DecidableEq

namespace Language

/-- The name of a language. -/
def name : Language → String
  | json => "JSON"
  | yaml => "YAML"
  | toml => "TOML"

/-- The last name on the way to a path. -/
def fileName (path : String) : List Char :=
  ((Disk.names path).getLast?.getD "").toList

/-- What follows the last point of a file's name, unless the name begins there. -/
def extension? (name : List Char) : Option (List Char) :=
  let reversed := name.reverse
  match reversed.dropWhile (· != '.') with
  | [] | ['.'] => none
  | _ => some (reversed.takeWhile (· != '.')).reverse

/-- **The language of a file.** -/
def ofPath (path : String) : Language :=
  match (extension? (fileName path)).map String.ofList with
  | some "yaml" | some "yml" => yaml
  | some "toml" => toml
  | _ => json

end Language

/-- **The readers of YAML and TOML.**  A reader is told what the data is for, since that has a
say in how a text is read, and gives the value that the text spells, if it spells any. -/
structure Readers where
  /-- The reader of YAML. -/
  yaml : Shape → String → Option Value :=
    fun shape s => (Yaml.read? s.toList).bind (Yaml.Node.value? shape)
  /-- The reader of TOML. -/
  toml : Shape → String → Option Value := fun _ s => Toml.read? s.toList

/-- **The value that a text spells,** read for something. -/
def Language.read? (readers : Readers) (shape : Shape) : Language → String → Option Value
  | json, s => Json.readAs? shape s.toList
  | yaml, s => readers.yaml shape s
  | toml, s => readers.toml shape s

/-- A script that may fail. -/
abbrev Task := ExceptT Failure Script

namespace Task

/-- Stop with a failure. -/
def fail {α : Type} (f : Failure) : Task α :=
  throw f

/-- Go on with a result, or stop. -/
def ofExcept {α : Type} (e : Except Failure α) : Task α :=
  ExceptT.mk (pure e)

end Task

/-- What is said of a text that does not spell what is wanted. -/
def unfit : String :=
  "the text does not spell what is wanted"

/-- **The data in a file,** decoded. -/
def readDocument {α : Type} (readers : Readers) (shape : Shape) (decode : Value → Option α)
    (path : String) : Task α := do
  match ← (Script.look path : Script Entry) with
  | .missing => Task.fail (.missingFile path)
  | .unreadable reason => Task.fail (.io reason)
  | .file content =>
    let language := Language.ofPath path
    match (language.read? readers shape content).bind decode with
    | some x => return x
    | none => Task.fail (.badFile path language.name unfit)

end RecordFlow.Terminal
