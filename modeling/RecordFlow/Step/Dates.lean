import RecordFlow.Calendar.Reading
import RecordFlow.Step.Options

/-!
# Steps on dates

Dates travel as text in the standard form; numbers are milliseconds since 1970.

## Main definitions

* `instantOf?` — the instant that a value stands for.
* `Step.parseDate`, `Step.formatDate`, `Step.now` — dates read and written.
-/

namespace RecordFlow

/-- The nearest integer of sixty-four bits. -/
def saturate (n : Int) : Int :=
  max (-2 ^ 63) (min n (2 ^ 63 - 1))

/-- The milliseconds that a number stands for, its fraction dropped. -/
def Number.millis : Number → Int
  | .int n => saturate n
  | .float x => if x.isFinite then saturate x.toInt
      else if x.isNegative then saturate (-2 ^ 64) else saturate (2 ^ 64)

/-- **The instant that a value stands for:** a number of milliseconds, or a text read by
the pattern if there is one. -/
def instantOf? (pattern : Option String) : Value → Option Calendar.Instant
  | .num n => Calendar.Instant.ofMillis? n.millis
  | .str s =>
    let text := Text.trim s.toList
    match pattern with
    | some p => Calendar.readByItems? (Calendar.patternItems p.toList) text
    | none => Calendar.readAny? text
  | _ => none

namespace Step

/-- A date in the standard form, or null. -/
def parseDate (o : Options) (v : Value) : Value :=
  (instantOf? o.inputFormat v).elim .null fun t => .text (Calendar.isoText t)

/-- A date written by a pattern; a value that is no date stays as it is. -/
def formatDate (o : Options) (v : Value) : Value :=
  match instantOf? o.inputFormat v with
  | none => v
  | some t =>
    match o.format.or o.outputFormat with
    | none => .text (Calendar.isoText t)
    | some p => .text (Calendar.render (Calendar.patternItems p.toList) t)

/-- The present instant. -/
def now (present : Calendar.Instant) : Value :=
  .text (Calendar.isoText present)

end Step

end RecordFlow
