import RecordFlow.Regex.Replacement
import RecordFlow.Step.Wording

/-!
# Steps with regular expressions

What matches an expression is replaced, or a group of it is extracted.  A step without
an expression, or with one that is not valid, leaves the value alone.

## Main definitions

* `Options.compiled?` — the expression of the options.
* `Step.regexReplace`, `Step.regexExtract` — the two steps.
-/

namespace RecordFlow

/-- Whether a letter is among the flags of the options. -/
def Options.hasFlag (o : Options) (letter : Char) : Bool :=
  (chars o.flags "").contains letter

/-- **The expression of the options,** under the flags that concern reading. -/
def Options.compiled? (o : Options) : Option Regex.Expression :=
  o.pattern.bind fun pattern =>
    Regex.Expression.ofText?
      { ignoreCase := o.hasFlag 'i', multiLine := o.hasFlag 'm', dotAll := o.hasFlag 's' }
      pattern.toList

namespace Step

/-- The first match in a string replaced, or every match under the flag `g`. -/
def regexReplace (o : Options) : Value → Value
  | .str s =>
    match o.compiled? with
    | none => .str s
    | some e => .text (e.replace (o.hasFlag 'g') (chars o.replacement "") s.toList)
  | v => v

/-- A group of the first match in a string, or null. -/
def regexExtract (o : Options) : Value → Value
  | .str s =>
    match o.compiled? with
    | none => .str s
    | some e => (e.extract? (o.group.getD 0) s.toList).elim .null .text
  | v => v

end Step

end RecordFlow
