/-!
# Kinds of steps

The kinds of steps that are built in, with the identifiers by which a definition names
them and the categories under which they are listed.

## Main definitions

* `StepKind` — the kinds.
* `StepKind.all` — all of them, in the order in which they are listed.
* `StepKind.identifier`, `StepKind.category` — how a kind is named and listed.
* `StepKind.ofIdentifier?` — the kind that an identifier names.
-/

namespace RecordFlow

/-- **The built-in kinds of steps.** -/
inductive StepKind where
  | trim
  | lowercase
  | uppercase
  | slugify
  | truncate
  | pad
  | replace
  | regexReplace
  | regexExtract
  | split
  | join
  | concat
  | template
  | stripHtml
  | escapeHtml
  | titleCase
  | sentenceCase
  | parseNumber
  | parseFloat
  | parseInt
  | round
  | floor
  | ceil
  | abs
  | toCents
  | fromCents
  | math
  | parseDate
  | formatDate
  | now
  | parseBoolean
  | negate
  | toString
  | toNumber
  | toBoolean
  | toArray
  | toJson
  | parseJson
  | map
  | lookup
  | ifElse
  | coalesce
  | default
  | first
  | last
  | nth
  | filter
  | mapArray
  | flatten
  | expression
deriving DecidableEq

namespace StepKind

/-- All kinds, in the order in which they are listed. -/
def all : List StepKind := [
  trim, lowercase, uppercase, slugify, truncate, pad, replace, regexReplace, regexExtract,
  split, join, concat, template, stripHtml, escapeHtml, titleCase, sentenceCase,
  parseNumber, parseFloat, parseInt, round, floor, ceil, abs, toCents, fromCents, math,
  parseDate, formatDate, now, parseBoolean, negate, toString, toNumber, toBoolean, toArray,
  toJson, parseJson, map, lookup, ifElse, coalesce, default, first, last, nth, filter,
  mapArray, flatten, expression]

/-- The identifier by which a definition names a kind. -/
def identifier : StepKind → String
  | trim => "TRIM"
  | lowercase => "LOWERCASE"
  | uppercase => "UPPERCASE"
  | slugify => "SLUGIFY"
  | truncate => "TRUNCATE"
  | pad => "PAD"
  | replace => "REPLACE"
  | regexReplace => "REGEX_REPLACE"
  | regexExtract => "REGEX_EXTRACT"
  | split => "SPLIT"
  | join => "JOIN"
  | concat => "CONCAT"
  | template => "TEMPLATE"
  | stripHtml => "STRIP_HTML"
  | escapeHtml => "ESCAPE_HTML"
  | titleCase => "TITLE_CASE"
  | sentenceCase => "SENTENCE_CASE"
  | parseNumber => "PARSE_NUMBER"
  | parseFloat => "PARSE_FLOAT"
  | parseInt => "PARSE_INT"
  | round => "ROUND"
  | floor => "FLOOR"
  | ceil => "CEIL"
  | abs => "ABS"
  | toCents => "TO_CENTS"
  | fromCents => "FROM_CENTS"
  | math => "MATH"
  | parseDate => "PARSE_DATE"
  | formatDate => "FORMAT_DATE"
  | now => "NOW"
  | parseBoolean => "PARSE_BOOLEAN"
  | negate => "NEGATE"
  | toString => "TO_STRING"
  | toNumber => "TO_NUMBER"
  | toBoolean => "TO_BOOLEAN"
  | toArray => "TO_ARRAY"
  | toJson => "TO_JSON"
  | parseJson => "PARSE_JSON"
  | map => "MAP"
  | lookup => "LOOKUP"
  | ifElse => "IF_ELSE"
  | coalesce => "COALESCE"
  | default => "DEFAULT"
  | first => "FIRST"
  | last => "LAST"
  | nth => "NTH"
  | filter => "FILTER"
  | mapArray => "MAP_ARRAY"
  | flatten => "FLATTEN"
  | expression => "EXPRESSION"

/-- **The kind that an identifier names,** in the very spelling. -/
def ofIdentifier? (identifier : String) : Option StepKind :=
  all.find? (·.identifier == identifier)

/-- What is said of an identifier that names no kind. -/
def unknownMessage (identifier : String) : String :=
  "'" ++ identifier ++ "' is not a built-in transform type"

/-- The category under which a kind is listed. -/
def category : StepKind → String
  | trim | lowercase | uppercase | slugify | truncate | pad | replace | regexReplace
  | regexExtract | split | join | concat | template | stripHtml | escapeHtml | titleCase
  | sentenceCase => "string"
  | parseNumber | parseFloat | parseInt | round | floor | ceil | abs | toCents | fromCents
  | math => "number"
  | parseDate | formatDate | now => "date"
  | parseBoolean | negate => "boolean"
  | toString | toNumber | toBoolean | toArray | toJson | parseJson => "conversion"
  | map | lookup => "lookup"
  | ifElse | coalesce | default => "conditional"
  | first | last | nth | filter | mapArray | flatten => "array"
  | expression => "expression"

/-- Whether a step of the kind asks a store, and so cannot be run by itself. -/
def asksStore : StepKind → Bool
  | lookup => true
  | _ => false

end StepKind

end RecordFlow
