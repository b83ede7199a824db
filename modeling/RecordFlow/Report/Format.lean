import RecordFlow.Json.Printer
import RecordFlow.Text.CharClass
import RecordFlow.Yaml.Printer

/-!
# Formats of output

Results are shown for a reader, or as data in JSON on one line, JSON on indented lines,
or YAML.

## Main definitions

* `Report.Format` — the formats.
* `Report.Format.ofName?`, `Report.Format.ofNameAnyCase?` — the format that a name is of.
* `Report.Format.render` — a value in a format.
-/

namespace RecordFlow.Report

/-- **The formats of output.** -/
inductive Format where
  | human
  | json
  | yaml
  | jsonPretty
deriving DecidableEq

namespace Format

/-- The name of a format. -/
def name : Format → String
  | human => "human"
  | json => "json"
  | yaml => "yaml"
  | jsonPretty => "json-pretty"

/-- All formats. -/
def all : List Format :=
  [human, json, yaml, jsonPretty]

/-- The format that a name is of, in the very spelling. -/
def ofName? (name : String) : Option Format :=
  all.find? (·.name == name)

/-- A letter of ASCII in lower case. -/
def lowerAscii (c : Char) : Char :=
  if 65 ≤ c.toNat ∧ c.toNat ≤ 90 then Char.ofNat (c.toNat + 32) else c

/-- The format that a name is of, in any case. -/
def ofNameAnyCase? (name : String) : Option Format :=
  ofName? (String.ofList (name.toList.map lowerAscii))

/-- What is said of a name that is of no format. -/
def unknownMessage (name : String) : String :=
  "invalid variant: " ++ name

/-- **A value in a format.**  A reader is shown the indented lines. -/
def render : Format → Value → List Char
  | human | jsonPretty => Json.indented
  | json => Json.compact
  | yaml => Yaml.print

end Format

end RecordFlow.Report
