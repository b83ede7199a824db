import RecordFlow.Regex.Matcher
import RecordFlow.Regex.Parser

/-!
# Finding and replacing by regular expressions

All matches of an expression from left to right, which do not overlap, and texts in
which they are replaced.  A replacement may name groups: a dollar sign and the longest
run of letters, digits and underscores, or any name in braces; two dollar signs stand
for one.

## Main definitions

* `Expression` — a regular expression ready for use.
* `Expression.matches` — the matches in a text.
* `Expression.replace` — a text with the first match, or all of them, replaced.
* `Expression.extract?` — the text of a group of the first match.
-/

namespace RecordFlow.Regex

/-- **A regular expression ready for use.** -/
structure Expression where
  /-- Its machine. -/
  machine : Machine
  /-- The numbers of its named groups. -/
  names : List (String × Nat)

/-- The expression that a text spells. -/
def Expression.ofText? (flags : Flags) (s : List Char) : Option Expression :=
  (readPattern? flags s).map fun p => ⟨p.pattern.compile, p.names⟩

/-- The place so many characters further on. -/
def Place.skip : Nat → Place → Place
  | 0, p => p
  | n + 1, p => Place.skip n p.advance

/-- The start of a text. -/
def Place.start (s : List Char) : Place :=
  ⟨0, none, s⟩

/-- The characters of a text in a span. -/
def slice (s : List Char) (span : Nat × Nat) : List Char :=
  (s.drop span.1).take (span.2 - span.1)

namespace Expression

/-- The matches from a place on, at most `count` of them; an empty match where the last
one ended is passed over. -/
def matchesFrom (e : Expression) : Nat → Option Nat → Place → List Kept
  | 0, _, _ => []
  | count + 1, lastEnd, p =>
    match e.machine.find? p with
    | none => []
    | some kept =>
      match groupSpan? kept 0 with
      | none => []
      | some (first, last) =>
        if first = last ∧ lastEnd = some last then
          if p.after.isEmpty then [] else matchesFrom e count lastEnd p.advance
        else kept :: matchesFrom e count (some last) (p.skip (last - p.index))

/-- **The matches in a text,** from left to right. -/
def allMatches (e : Expression) (s : List Char) : List Kept :=
  e.matchesFrom (2 * s.length + 2) none (.start s)

/-- The first match in a text. -/
def firstMatch? (e : Expression) (s : List Char) : Option Kept :=
  e.machine.find? (.start s)

end Expression

/-! ### Replacements -/

/-- **A piece of a replacement.** -/
inductive Piece where
  /-- A character for itself. -/
  | char (c : Char)
  /-- The text of a group, by number or by name. -/
  | group (reference : List Char)

/-- Whether the character may stand in a reference without braces. -/
def isReferenceChar (c : Char) : Bool :=
  Text.isAsciiLetter c || Text.isAsciiDigit c || c == '_'

/-- **The pieces of a replacement.** -/
def pieces (s : List Char) : List Piece :=
  match s with
  | [] => []
  | '$' :: '$' :: rest => .char '$' :: pieces rest
  | '$' :: '\x7b' :: rest =>
    match _h : Text.cutAt? ['\x7d'] rest with
    | some (reference, after) => .group reference :: pieces after
    | none => .char '$' :: pieces ('\x7b' :: rest)
  | '$' :: rest =>
    match rest.takeWhile isReferenceChar with
    | [] => .char '$' :: pieces rest
    | reference => .group reference :: pieces (rest.dropWhile isReferenceChar)
  | c :: rest => .char c :: pieces rest
termination_by s.length
decreasing_by
  all_goals simp only [List.length_cons]
  · omega
  · have := Text.length_of_cutAt? _h
    omega
  · omega
  · omega
  · have : (rest.dropWhile isReferenceChar).length ≤ rest.length :=
      (List.dropWhile_sublist _).length_le
    omega
  · omega

namespace Expression

/-- The number of the group that a reference names. -/
def groupNumber? (e : Expression) (reference : List Char) : Option Nat :=
  (readCount? reference).or (e.names.lookup (String.ofList reference))

/-- The text of a group of a match; a group that took no part has none. -/
def groupText (s : List Char) (kept : Kept) (index : Nat) : Option (List Char) :=
  (groupSpan? kept index).map (slice s)

/-- The text of a piece for a match. -/
def pieceText (e : Expression) (s : List Char) (kept : Kept) : Piece → List Char
  | .char c => [c]
  | .group reference =>
    ((e.groupNumber? reference).bind (groupText s kept)).getD []

/-- A text with matches replaced, from the character number `index` on. -/
def substitute (e : Expression) (s : List Char) (replacement : List Piece) (index : Nat) :
    List Kept → List Char
  | [] => s.drop index
  | kept :: rest =>
    match groupSpan? kept 0 with
    | none => s.drop index
    | some (first, last) =>
      slice s (index, first) ++ replacement.flatMap (e.pieceText s kept) ++
        substitute e s replacement last rest

/-- **A text with the first match, or with all matches, replaced.** -/
def replace (e : Expression) (all : Bool) (replacement s : List Char) : List Char :=
  e.substitute s (pieces replacement) 0
    (if all then e.allMatches s else (e.firstMatch? s).toList)

/-- **The text of a group of the first match.** -/
def extract? (e : Expression) (group : Nat) (s : List Char) : Option (List Char) :=
  (e.firstMatch? s).bind fun kept => groupText s kept group

end Expression

end RecordFlow.Regex
