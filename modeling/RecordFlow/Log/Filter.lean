import RecordFlow.Number.Numeral
import RecordFlow.Text.Blank
import RecordFlow.Text.CharClass
import RecordFlow.Text.Search

/-!
# Filters of levels

A filter is a list of directives separated by commas, empty ones being passed over.  A
directive is a level, or names a part of the program and perhaps a span in brackets,
followed by an equals sign and a level.

    info        net=debug,off        store[load]=3

## Main definitions

* `Log.isLevel` — whether a text is a level.
* `Log.isDirective` — whether a text is a directive.
* `Log.isFilter` — whether a text is a filter.
-/

namespace RecordFlow.Log

/-- The names of the levels. -/
def levelNames : List (List Char) :=
  ["off", "error", "warn", "info", "debug", "trace"].map String.toList

/-- A letter of ASCII in lower case. -/
def lowerAscii (c : Char) : Char :=
  if 65 ≤ c.toNat ∧ c.toNat ≤ 90 then Char.ofNat (c.toNat + 32) else c

/-- **Whether a text is a level:** a name in any case, its number, or nothing. -/
def isLevel (s : List Char) : Bool :=
  s.isEmpty || levelNames.contains (s.map lowerAscii) || (readCount? s).any (· ≤ 5)

/-- Whether a text is an equals sign and a level, or nothing. -/
def isLevelPart : List Char → Bool
  | [] => true
  | '=' :: level => isLevel level
  | _ => false

/-- Whether a text is the rest of a span, and what may follow it. -/
def isSpanPart (s : List Char) : Bool :=
  match Text.cutAt? [']'] s with
  | none => false
  | some (span, after) =>
    match Text.cutAt? ['\x7b'] span with
    | none => isLevelPart after
    | some (_, fields) =>
      fields.getLast? == some '\x7d' &&
        (Text.splitOn [','] fields.dropLast).all (!·.isEmpty) && isLevelPart after

/-- **Whether a text is a directive.** -/
def isDirective (s : List Char) : Bool :=
  match s with
  | [] => false
  | '[' :: rest => isSpanPart rest
  | c :: rest =>
    (Text.isAlphanumeric c || c == '-' || c == ':' || c == '_') &&
      match rest.dropWhile fun d => d != '=' && d != '[' with
      | '[' :: span => isSpanPart span
      | tail => isLevelPart tail

/-- **Whether a text is a filter.** -/
def isFilter (text : String) : Bool :=
  (Text.splitOn [','] text.toList).all fun directive =>
    directive.isEmpty || isDirective (Text.trim directive)

end RecordFlow.Log
