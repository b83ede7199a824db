import RecordFlow.Regex.Class
import RecordFlow.Regex.Size

/-!
# Reading regular expressions

The text of a pattern is read from left to right by a machine that keeps the groups that
are still open.  Look-around and back references are not part of the language.

## Main definitions

* `Syntax` — the tree of a pattern, with the names of its groups.
* `readPattern?` — the pattern that a text spells.
-/

namespace RecordFlow.Regex

/-- **A pattern with the levels of its nesting:** those of its deepest part, and one
more for every group, class, repetition, choice and row of several parts around that. -/
structure Nested where
  /-- The pattern. -/
  pattern : Pattern
  /-- The levels. -/
  depth : Nat := 0

namespace Nested

/-- Several patterns put together, a single one by itself. -/
def join (combine : List Pattern → Pattern) : List Nested → Nested
  | [] => ⟨combine [], 0⟩
  | [p] => p
  | ps => ⟨combine (ps.map (·.pattern)), (ps.map (·.depth)).foldl max 0 + 1⟩

/-- The greatest number of levels that is accepted. -/
def depthLimit : Nat := 250

end Nested

/-- **A part of an alternative.** -/
inductive BranchPart where
  /-- A pattern. -/
  | pattern (p : Nested)
  /-- A change of flags, which cannot be repeated. -/
  | flags

/-- What a part stands for; a change of flags stands for nothing. -/
def BranchPart.nested : BranchPart → Nested
  | pattern p => p
  | flags => ⟨.empty, 0⟩

/-- What has been read of a group, or of the whole pattern. -/
structure Level where
  /-- The alternatives that are complete, last first. -/
  branches : List Nested := []
  /-- The parts of the present alternative, last first. -/
  parts : List BranchPart := []
  /-- The number of the group, if its place is kept. -/
  index : Option Nat := none
  /-- The flags to go back to after the group. -/
  outerFlags : Flags := {}

namespace Level

/-- The alternative being read. -/
def branch (l : Level) : Nested :=
  .join .sequence (l.parts.reverse.map BranchPart.nested)

/-- The pattern of the level. -/
def nested (l : Level) : Nested :=
  .join .choice (l.branch :: l.branches).reverse

/-- Add a part. -/
def push (l : Level) (p : Nested) : Level :=
  { l with parts := .pattern p :: l.parts }

/-- Begin another alternative. -/
def alternate (l : Level) : Level :=
  { l with branches := l.branch :: l.branches, parts := [] }

end Level

/-- **The state of reading:** the level being read, the levels around it, the flags in
force, and the groups counted and named so far. -/
structure ParserState where
  level : Level := {}
  outer : List Level := []
  flags : Flags := {}
  groups : Nat := 0
  names : List (String × Nat) := []

namespace ParserState

/-- Add a part to the present level. -/
def push (st : ParserState) (p : Pattern) (depth : Nat := 0) : ParserState :=
  { st with level := st.level.push ⟨p, depth⟩ }

/-- The pattern of a class, closed under case folding where case is ignored. -/
def ofChar (st : ParserState) (c : Char) : Pattern :=
  .set (withCase st.flags (.single c))

/-- What the start anchor means. -/
def startAnchor (st : ParserState) : Pattern :=
  .assertion (if st.flags.multiLine then .lineStart st.flags.crlf else .textStart)

/-- What the end anchor means. -/
def endAnchor (st : ParserState) : Pattern :=
  .assertion (if st.flags.multiLine then .lineEnd st.flags.crlf else .textEnd)

/-- What the dot means; it takes bytes where `unicode` is not set, which a text in
characters cannot match. -/
def dot? (st : ParserState) : Option Pattern :=
  if !st.flags.unicode then none
  else if st.flags.dotAll then some (.set (.range 0 CharSet.lastCode))
  else
    some (.set (CharSet.complement CharSet.lastCode
      (if st.flags.crlf then .ofIntervals [(10, 10), (13, 13)] else .range 10 10)))

/-- Repeat the last part. -/
def repeatLast? (st : ParserState) (least : Nat) (most : Option Nat) (lazy : Bool) :
    Option ParserState :=
  match st.level.parts with
  | .pattern p :: rest =>
    let r : Nested :=
      ⟨.repeated p.pattern least most (lazy == st.flags.swapGreed), p.depth + 1⟩
    some { st with level := { st.level with parts := .pattern r :: rest } }
  | _ => none

/-- Open a group. -/
def openGroup (st : ParserState) (index : Option Nat) (flags : Flags) : ParserState :=
  { st with
    level := { index := index, outerFlags := st.flags }
    outer := st.level :: st.outer
    flags := flags }

/-- Close the innermost group. -/
def closeGroup? (st : ParserState) : Option ParserState :=
  match st.outer with
  | [] => none
  | parent :: outer =>
    let body := st.level.nested
    let group : Nested :=
      ⟨(match st.level.index with
        | some n => .group n body.pattern
        | none => body.pattern), body.depth + 1⟩
    some { st with level := parent.push group, outer := outer, flags := st.level.outerFlags }

end ParserState

/-! ### Repetition -/

/-- A mark for the shortest repetition, taken away. -/
def takeLazy : List Char → Bool × List Char
  | '?' :: s => (true, s)
  | s => (false, s)

/-- A count: digits with white space around them. -/
def readCount (s : List Char) : Option (Option Nat × List Char) :=
  let s := Text.trimStart s
  let digits := s.takeWhile Text.isAsciiDigit
  let rest := Text.trimStart (s.dropWhile Text.isAsciiDigit)
  if digits.isEmpty then some (none, rest)
  else if digitsValue digits < 2 ^ 32 then some (some (digitsValue digits), rest)
  else none

/-- The bounds of a repetition, from what follows the opening brace. -/
def readBounds? (extended : Bool) (s : List Char) :
    Option ((Nat × Option Nat) × List Char) := do
  let (first, rest) ← readCount (skipSpace extended s)
  let least ← first
  match rest with
  | '\x7d' :: after => return ((least, some least), after)
  | ',' :: rest =>
    let rest := skipSpace extended rest
    match rest with
    | '\x7d' :: after => return ((least, none), after)
    | _ =>
      let (second, rest) ← readCount rest
      let most ← second
      match rest with
      | '\x7d' :: after => if least ≤ most then return ((least, some most), after) else none
      | _ => none
  | _ => none

/-! ### Groups -/

/-- Set or clear the flag of a letter. -/
def setFlag? (flags : Flags) (on : Bool) : Char → Option Flags
  | 'i' => some { flags with ignoreCase := on }
  | 'm' => some { flags with multiLine := on }
  | 's' => some { flags with dotAll := on }
  | 'U' => some { flags with swapGreed := on }
  | 'u' => some { flags with unicode := on }
  | 'R' => some { flags with crlf := on }
  | 'x' => some { flags with extended := on }
  | _ => none

/-- Letters of flags, up to the colon or the parenthesis that ends them.  After a dash
flags are cleared; there is one dash at most, something after it, and no letter
twice. -/
def readFlags? (flags : Flags) (on : Bool) (seen : List Char) :
    List Char → Option (Flags × List Char)
  | [] => none
  | c :: s =>
    if c = ':' ∨ c = ')' then
      if seen.head? = some '-' then none else some (flags, c :: s)
    else if seen.contains c then none
    else if c = '-' then readFlags? flags false ('-' :: seen) s
    else (setFlag? flags on c).bind fun flags => readFlags? flags on (c :: seen) s

/-- The name of a group, from what follows the opening angle bracket. -/
def readGroupName? (s : List Char) : Option (String × List Char) :=
  let inner (c : Char) : Bool :=
    Text.isAlphanumeric c || c == '_' || c == '.' || c == '[' || c == ']'
  match s.takeWhile (· != '>'), s.dropWhile (· != '>') with
  | first :: name, _ :: after =>
    if (first == '_' || (Text.isAlphanumeric first && !Text.isDecimalDigit first)) &&
        name.all inner then
      some (String.ofList (first :: name), after)
    else none
  | _, _ => none

/-- A group, from what follows the opening parenthesis: a change of flags, a group with
flags, a named group or a plain one. -/
def readGroup? (st : ParserState) (s : List Char) : Option (ParserState × List Char) :=
  let next := st.groups + 1
  let asNamed (rest : List Char) : Option (ParserState × List Char) :=
    (readGroupName? rest).bind fun (name, after) =>
      if (st.names.lookup name).isSome then none
      else
        let opened := st.openGroup (some next) st.flags
        some ({ opened with groups := next, names := (name, next) :: st.names }, after)
  match skipSpace st.flags.extended s with
  | '?' :: 'P' :: '<' :: rest => asNamed rest
  | '?' :: '<' :: c :: rest => if c = '=' ∨ c = '!' then none else asNamed (c :: rest)
  | '?' :: rest =>
    (readFlags? st.flags true [] rest).bind fun (flags, after) =>
      match after with
      | ':' :: after => some (st.openGroup none flags, after)
      | _ :: after =>
        if rest.head? = some ')' then none
        else
          let level := { st.level with parts := .flags :: st.level.parts }
          some ({ st with flags := flags, level := level }, after)
      | [] => none
  | rest =>
    let opened := st.openGroup (some next) st.flags
    some ({ opened with groups := next }, rest)

/-! ### The pattern -/

/-- The pattern of an escape. -/
def Atom.pattern (st : ParserState) : Atom → Pattern
  | char c => st.ofChar c
  | set s => .set s
  | assertion a => .assertion a

/-- **Read the next part of a pattern,** which begins with the character `c`. -/
def stepPattern? (st : ParserState) (c : Char) (rest : List Char) :
    Option (ParserState × List Char) :=
  match c with
  | '(' => readGroup? st rest
  | ')' => st.closeGroup?.map (·, rest)
  | '|' => some ({ st with level := st.level.alternate }, rest)
  | '[' =>
    (readClass? st.flags rest).map fun ((s, depth), after) => (st.push (.set s) depth, after)
  | '?' =>
    let (lazy, after) := takeLazy rest
    (st.repeatLast? 0 (some 1) lazy).map (·, after)
  | '*' =>
    let (lazy, after) := takeLazy rest
    (st.repeatLast? 0 none lazy).map (·, after)
  | '+' =>
    let (lazy, after) := takeLazy rest
    (st.repeatLast? 1 none lazy).map (·, after)
  | '\x7b' =>
    (readBounds? st.flags.extended rest).bind fun ((least, most), after) =>
      let (lazy, after) := takeLazy (skipSpace st.flags.extended after)
      (st.repeatLast? least most lazy).map (·, after)
  | '\\' => (readEscape? st.flags rest).map fun (atom, after) => (st.push (atom.pattern st), after)
  | '.' => st.dot?.map fun p => (st.push p, rest)
  | '^' => some (st.push st.startAnchor, rest)
  | '$' => some (st.push st.endAnchor, rest)
  | c => some (st.push (st.ofChar c), rest)

/-- Read the rest of a pattern.  Every step must leave less to read. -/
def readFrom? (st : ParserState) (s : List Char) : Option ParserState :=
  match skipSpace st.flags.extended s with
  | [] => some st
  | c :: rest =>
    match stepPattern? st c rest with
    | none => none
    | some (st, after) => if after.length < s.length then readFrom? st after else none
termination_by s.length

/-- **A pattern with the names of its groups.** -/
structure Syntax where
  /-- The pattern. -/
  pattern : Pattern
  /-- The numbers of the named groups. -/
  names : List (String × Nat)

/-- **The pattern that a text spells** under the given flags, if it is valid, not nested
too deeply and not too large. -/
def readPattern? (flags : Flags) (s : List Char) : Option Syntax :=
  (readFrom? { flags := flags } s).bind fun st =>
    let p := st.level.nested
    if st.outer.isEmpty ∧ p.depth ≤ Nested.depthLimit ∧ p.pattern.size ≤ Pattern.sizeLimit then
      some ⟨p.pattern, st.names⟩
    else none

end RecordFlow.Regex
