import RecordFlow.Step.Choice
import RecordFlow.Step.Conversion
import RecordFlow.Step.Dates
import RecordFlow.Step.Kind
import RecordFlow.Step.Markup
import RecordFlow.Step.Numeric
import RecordFlow.Step.Parts
import RecordFlow.Step.Patterns
import RecordFlow.Step.Sequence
import RecordFlow.Step.Table

/-!
# What steps do

Every kind of step but the lookup is a function of the options, of what surrounds the
value, and of the value.

## Main definitions

* `Surroundings` — the record that a value is in, and the present instant.
* `Handler` — what a step does.
* `StepKind.handler?` — the handler of a kind; a lookup has none.
* `builtIn?` — the handler that an identifier names.
-/

namespace RecordFlow

/-- **What surrounds a value.** -/
structure Surroundings where
  /-- The record that the value is in, if there is one. -/
  record : Option Value
  /-- The present instant. -/
  now : Calendar.Instant

/-- **What a step does** with a value. -/
abbrev Handler := Options → Surroundings → Value → Value

/-- **The handler of a kind.** -/
def StepKind.handler? : StepKind → Option Handler
  | trim => some fun _ _ => Step.trim
  | lowercase => some fun _ _ => Step.lowercase
  | uppercase => some fun _ _ => Step.uppercase
  | slugify => some fun o _ => Step.slugify o
  | truncate => some fun o _ => Step.truncate o
  | pad => some fun o _ => Step.pad o
  | replace => some fun o _ => Step.replace o
  | regexReplace => some fun o _ => Step.regexReplace o
  | regexExtract => some fun o _ => Step.regexExtract o
  | split => some fun o _ => Step.split o
  | join => some fun o _ => Step.join o
  | concat => some fun o s => Step.concat o s.record
  | template => some fun o s => Step.template o s.record
  | stripHtml => some fun _ _ => Step.stripHtml
  | escapeHtml => some fun _ _ => Step.escapeHtml
  | titleCase => some fun _ _ => Step.titleCase
  | sentenceCase => some fun _ _ => Step.sentenceCase
  | parseNumber => some fun o _ => Step.parseNumber o
  | parseFloat => some fun _ _ => Step.parseFloat
  | parseInt => some fun _ _ => Step.parseInt
  | round => some fun o _ => Step.round o
  | floor => some fun _ _ => Step.floor
  | ceil => some fun _ _ => Step.ceil
  | abs => some fun _ _ => Step.abs
  | toCents => some fun _ _ => Step.toCents
  | fromCents => some fun _ _ => Step.fromCents
  | math => some fun o _ => Step.math o
  | parseDate => some fun o _ => Step.parseDate o
  | formatDate => some fun o _ => Step.formatDate o
  | now => some fun _ s _ => Step.now s.now
  | parseBoolean => some fun o _ => Step.parseBoolean o
  | negate => some fun _ _ => Step.negate
  | toString => some fun _ _ => Step.toString
  | toNumber => some fun _ _ => Step.toNumber
  | toBoolean => some fun _ _ => Step.toBoolean
  | toArray => some fun _ _ => Step.toArray
  | toJson => some fun o _ => Step.toJson o
  | parseJson => some fun _ _ => Step.parseJson
  | map => some fun o _ => Step.mapValue o
  | lookup => none
  | ifElse => some fun o s => Step.ifElse o s.record
  | coalesce => some fun o s => Step.coalesce o s.record
  | default => some fun o _ => Step.default o
  | first => some fun _ _ => Step.first
  | last => some fun _ _ => Step.last
  | nth => some fun o _ => Step.nth o
  | filter => some fun o s => Step.filter o s.record
  | mapArray => some fun o s => Step.mapArray o s.record
  | flatten => some fun o _ => Step.flatten o
  | expression => some fun o s => Step.expression o s.record

/-- **The handler that an identifier names.** -/
def builtIn? (identifier : String) : Option Handler :=
  (StepKind.ofIdentifier? identifier).bind StepKind.handler?

/-- The identifiers that have a handler. -/
def handledIdentifiers : List String :=
  (StepKind.all.filter (·.handler?.isSome)).map StepKind.identifier

end RecordFlow
