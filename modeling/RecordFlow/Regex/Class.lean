import RecordFlow.Number.Numeral
import RecordFlow.Regex.Pattern
import RecordFlow.Regex.Property
import RecordFlow.Text.Search

/-!
# Escapes and bracketed classes

The parts of a pattern that stand for one character or one place: escapes after a
backslash, and classes in brackets with ranges, nested classes and set operations.

Every reader takes the rest of the pattern and gives what it has read with the rest
after that, or nothing where the pattern is not valid.

## Main definitions

* `Flags` — the flags in force.
* `Atom`, `readEscape?` — what an escape stands for.
* `readClass?` — a class in brackets.
-/

namespace RecordFlow.Regex

/-- **The flags in force.** -/
structure Flags where
  /-- Upper and lower case are the same. -/
  ignoreCase : Bool := false
  /-- The anchors stand at lines too. -/
  multiLine : Bool := false
  /-- The dot takes line ends too. -/
  dotAll : Bool := false
  /-- Repetitions are as short as possible, unless marked. -/
  swapGreed : Bool := false
  /-- Classes go beyond ASCII. -/
  unicode : Bool := true
  /-- Carriage returns end lines too. -/
  crlf : Bool := false
  /-- White space and comments in the pattern are passed over. -/
  extended : Bool := false

/-- A comment, up to the end of its line, taken away. -/
def dropComment (s : List Char) : List Char :=
  s.dropWhile (· != '\n')

/-- Taking a comment away leaves no more than there was. -/
theorem length_dropComment_le (s : List Char) : (dropComment s).length ≤ s.length :=
  (List.dropWhile_sublist _).length_le

/-- **White space and comments taken away,** where they are passed over. -/
def skipSpace (extended : Bool) (s : List Char) : List Char :=
  match s with
  | [] => []
  | c :: rest =>
    if extended then
      if Text.isBlank c then skipSpace extended rest
      else if c = '#' then skipSpace extended (dropComment rest)
      else c :: rest
    else c :: rest
termination_by s.length
decreasing_by
  all_goals simp only [List.length_cons]
  · omega
  · have := length_dropComment_le rest
    omega

/-- Taking white space and comments away leaves no more than there was. -/
theorem length_skipSpace_le (extended : Bool) (s : List Char) :
    (skipSpace extended s).length ≤ s.length := by
  fun_induction skipSpace extended s with
  | case1 => exact Nat.le_refl _
  | case2 c rest _ _ ih => exact Nat.le_succ_of_le ih
  | case3 rest _ _ ih =>
    exact Nat.le_succ_of_le (Nat.le_trans ih (length_dropComment_le rest))
  | case4 => exact Nat.le_refl _
  | case5 => exact Nat.le_refl _

/-- **What an escape stands for.** -/
inductive Atom where
  /-- A character. -/
  | char (c : Char)
  /-- A class, closed under case folding on its own. -/
  | set (s : CharSet)
  /-- A condition on the place. -/
  | assertion (a : Assertion)

/-- Whether an escaped character stands for itself: all of ASCII but letters, digits
and angle brackets. -/
def isEscapable (c : Char) : Bool :=
  c.toNat < 128 && !Text.isAsciiLetter c && !Text.isAsciiDigit c && c != '<' && c != '>'

/-- The value of a hexadecimal digit in either case. -/
def hexDigitValue? (c : Char) : Option Nat :=
  if '0' ≤ c ∧ c ≤ '9' then some (c.toNat - 48)
  else if 'a' ≤ c ∧ c ≤ 'f' then some (c.toNat - 87)
  else if 'A' ≤ c ∧ c ≤ 'F' then some (c.toNat - 55)
  else none

/-- The character that a nonempty row of hexadecimal digits names. -/
def hexChar? (digits : List Char) : Option Char :=
  if digits.isEmpty then none
  else
    (digits.foldlM (fun n c => (hexDigitValue? c).map (16 * n + ·)) 0).bind fun n =>
      if h : n.isValidChar then some (Char.ofNatAux n h) else none

/-- A character by its number: in braces, or with a fixed count of digits. -/
def readHex? (count : Nat) : List Char → Option (Char × List Char)
  | '\x7b' :: rest =>
    (Text.cutAt? ['\x7d'] rest).bind fun (digits, after) => (hexChar? digits).map (·, after)
  | s =>
    if s.length < count then none else (hexChar? (s.take count)).map (·, s.drop count)

/-- A class closed under case folding where case is ignored; without `unicode` only the
letters of ASCII have a case. -/
def withCase (flags : Flags) (s : CharSet) : CharSet :=
  if !flags.ignoreCase then s
  else if flags.unicode then s.foldCase
  else s.union (s.foldCase.inter (.range 0 127))

/-- The complement of a class; without `unicode` it is taken among the values of a
byte. -/
def negated (flags : Flags) (s : CharSet) : CharSet :=
  s.complement (if flags.unicode then CharSet.lastCode else 255)

/-- A class that a text in characters can match: without `unicode` only one of ASCII
can. -/
def checked? (flags : Flags) (s : CharSet) : Option CharSet :=
  if flags.unicode || s.isAscii then some s else none

/-- A class by property, from what follows the letter. -/
def readProperty? (flags : Flags) (negate : Bool) (s : List Char) :
    Option (CharSet × List Char) :=
  if !flags.unicode then none
  else
    match s with
    | [] => none
    | '\x7b' :: rest => do
      let (name, after) ← Text.cutAt? ['\x7d'] rest
      let (set, flip) ←
        match Text.cutAt? ['!', '='] name with
        | some (property, value) => (valueSet? property value).map (·, true)
        | none =>
          match (Text.cutAt? [':'] name).or (Text.cutAt? ['='] name) with
          | some (property, value) => (valueSet? property value).map (·, false)
          | none => (propertySet? name).map (·, false)
      let set := withCase flags set
      return (if negate != flip then negated flags set else set, after)
    | c :: rest =>
      if c = '\\' then none
      else
        (categorySet? (looseName [c])).map fun set =>
          let set := withCase flags set
          (if negate then negated flags set else set, rest)

/-- The condition that a word in braces names. -/
def wordAssertion? (unicode : Bool) (name : List Char) : Option Assertion :=
  if name = "start".toList then some (.wordStart unicode)
  else if name = "end".toList then some (.wordEnd unicode)
  else if name = "start-half".toList then some (.wordStartHalf unicode)
  else if name = "end-half".toList then some (.wordEndHalf unicode)
  else none

/-- Whether the character may stand in the name of a word boundary. -/
def isBoundaryChar (c : Char) : Bool :=
  Text.isAsciiLetter c || c == '-'

/-- A word boundary, from what follows its letter: perhaps of a special kind, named in
braces. -/
def readBoundary? (flags : Flags) (s : List Char) : Option (Atom × List Char) :=
  match s with
  | '\x7b' :: rest =>
    let rest := skipSpace flags.extended rest
    match rest with
    | [] => none
    | c :: _ =>
      if isBoundaryChar c then
        match rest.dropWhile isBoundaryChar with
        | '\x7d' :: after =>
          (wordAssertion? flags.unicode (rest.takeWhile isBoundaryChar)).map
            (.assertion ·, after)
        | _ => none
      else some (.assertion (.wordBoundary flags.unicode), s)
  | _ => some (.assertion (.wordBoundary flags.unicode), s)

/-- A short class, or its complement. -/
def shortClass? (flags : Flags) (negate : Bool) (s : CharSet) : Option CharSet :=
  checked? flags (if negate then negated flags s else s)

/-- **What an escape stands for,** from what follows the backslash. -/
def readEscape? (flags : Flags) : List Char → Option (Atom × List Char)
  | [] => none
  | c :: rest =>
    let short (negate : Bool) (s : CharSet) :=
      (shortClass? flags negate s).map fun set => (Atom.set set, rest)
    match c with
    | 'd' => short false (digitSet flags.unicode)
    | 'D' => short true (digitSet flags.unicode)
    | 's' => short false (spaceSet flags.unicode)
    | 'S' => short true (spaceSet flags.unicode)
    | 'w' => short false (wordSet flags.unicode)
    | 'W' => short true (wordSet flags.unicode)
    | 'p' => (readProperty? flags false rest).map fun (s, after) => (.set s, after)
    | 'P' => (readProperty? flags true rest).map fun (s, after) => (.set s, after)
    | 'x' =>
      (readHex? 2 rest).bind fun (d, after) =>
        if !flags.unicode ∧ rest.head? ≠ some '\x7b' ∧ 127 < d.toNat then none
        else some (.char d, after)
    | 'u' => (readHex? 4 rest).map fun (d, after) => (.char d, after)
    | 'U' => (readHex? 8 rest).map fun (d, after) => (.char d, after)
    | 'a' => some (.char (Char.ofNat 7), rest)
    | 'f' => some (.char (Char.ofNat 12), rest)
    | 't' => some (.char '\t', rest)
    | 'n' => some (.char '\n', rest)
    | 'r' => some (.char '\r', rest)
    | 'v' => some (.char (Char.ofNat 11), rest)
    | 'A' => some (.assertion .textStart, rest)
    | 'z' => some (.assertion .textEnd, rest)
    | 'b' => readBoundary? flags rest
    | 'B' => some (.assertion (.notWordBoundary flags.unicode), rest)
    | '<' => some (.assertion (.wordStart flags.unicode), rest)
    | '>' => some (.assertion (.wordEnd flags.unicode), rest)
    | c => if isEscapable c then some (.char c, rest) else none

/-! ### Classes in brackets -/

/-- The operations between classes. -/
inductive SetOp where
  | inter
  | diff
  | symmDiff

/-- The result of an operation. -/
def SetOp.apply : SetOp → CharSet → CharSet → CharSet
  | inter => CharSet.inter
  | diff => CharSet.diff
  | symmDiff => CharSet.symmDiff

/-- **A class that is still open.** -/
structure OpenClass where
  /-- Whether its complement is meant. -/
  negate : Bool
  /-- The left side of an operation that waits for its right side. -/
  pending : Option (CharSet × SetOp)
  /-- The members named since then. -/
  members : CharSet
  /-- The number of things named since then. -/
  count : Nat := 0
  /-- The levels of nesting of what has been named since then. -/
  depth : Nat := 0
  /-- The levels of nesting of the left side. -/
  leftDepth : Nat := 0

namespace OpenClass

/-- Add members, named by something with so many levels of nesting. -/
def add (o : OpenClass) (s : CharSet) (depth : Nat) : OpenClass :=
  { o with members := o.members.union s, count := o.count + 1, depth := max o.depth depth }

/-- The levels of nesting so far: one for several things side by side, and one for an
operation. -/
def nesting (o : OpenClass) : Nat :=
  let depth := if o.count ≤ 1 then o.depth else o.depth + 1
  if o.pending.isSome then max o.leftDepth depth + 1 else depth

/-- The set so far: the members, or the result of the operation that waits. -/
def value (flags : Flags) (o : OpenClass) : CharSet :=
  match o.pending with
  | none => withCase flags o.members
  | some (left, op) => op.apply left (withCase flags o.members)

/-- Begin the right side of an operation. -/
def operate (flags : Flags) (o : OpenClass) (op : SetOp) : OpenClass :=
  { negate := o.negate, pending := some (o.value flags, op), members := .empty,
    leftDepth := o.nesting }

/-- The set of the whole class. -/
def close (flags : Flags) (o : OpenClass) : CharSet :=
  let s := o.value flags
  if o.negate then negated flags s else s

end OpenClass

/-- Take the dashes at the start of a class as members. -/
def readDashes (extended : Bool) (o : OpenClass) (s : List Char) : OpenClass × List Char :=
  match s with
  | [] => (o, [])
  | c :: rest =>
    if c = '-' then readDashes extended (o.add (.single '-') 0) (skipSpace extended rest)
    else (o, c :: rest)
termination_by s.length
decreasing_by
  have := length_skipSpace_le extended rest
  simp only [List.length_cons]
  omega

/-- Dashes at the start of a class, and a closing bracket after none, stand for
themselves. -/
def readOpening? (extended : Bool) (o : OpenClass) (s : List Char) :
    Option (OpenClass × List Char) :=
  match readDashes extended o s with
  | (_, []) => none
  | (o, c :: after) =>
    if o.count = 0 ∧ c = ']' then some (o.add (.single ']') 0, skipSpace extended after)
    else some (o, c :: after)

/-- Begin a class, from what follows its opening bracket. -/
def openClass? (flags : Flags) (s : List Char) : Option (OpenClass × List Char) :=
  let opened (negate : Bool) : OpenClass :=
    { negate := negate, pending := none, members := .empty }
  match skipSpace flags.extended s with
  | '^' :: rest =>
    readOpening? flags.extended (opened true) (skipSpace flags.extended rest)
  | rest => readOpening? flags.extended (opened false) rest

/-- A named class of ASCII, from what follows an inner opening bracket. -/
def readAsciiClass? (flags : Flags) (s : List Char) : Option (CharSet × List Char) :=
  match s with
  | ':' :: rest =>
    let negate := rest.head? == some '^'
    let rest := if negate then rest.tail else rest
    match rest.dropWhile (· != ':') with
    | ':' :: ']' :: after =>
      (asciiClass? (rest.takeWhile (· != ':'))).map fun s =>
        let s := withCase flags s
        (if negate then negated flags s else s, after)
    | _ => none
  | _ => none

/-- A character or an escape inside a class. -/
def readMember? (flags : Flags) : List Char → Option (Atom × List Char)
  | [] => none
  | '\\' :: rest => readEscape? flags rest
  | c :: rest => some (.char c, rest)

/-- The class that a single member is. -/
def Atom.members? : Atom → Option CharSet
  | char c => some (.single c)
  | set s => some s
  | assertion _ => none

/-- A member or a range of characters.  A dash makes a range unless a closing bracket
or another dash follows. -/
def readRange? (flags : Flags) (s : List Char) : Option (CharSet × List Char) := do
  let (first, rest) ← readMember? flags s
  let rest := skipSpace flags.extended rest
  match rest with
  | '-' :: after =>
    let after := skipSpace flags.extended after
    match after with
    | [] => none
    | d :: _ =>
      if d = ']' ∨ d = '-' then return (← first.members?, rest)
      else
        match first, ← readMember? flags after with
        | .char a, (.char b, final) =>
          if a ≤ b then some (.range a.toNat b.toNat, final) else none
        | _, _ => none
  | _ => return (← first.members?, rest)

/-- **What comes next in a class:** the class that is open innermost, and those around
it, are changed, or the outermost class is complete. -/
def classStep? (flags : Flags) (o : OpenClass) (outer : List OpenClass) (s : List Char) :
    Option ((OpenClass × List OpenClass ⊕ CharSet × Nat) × List Char) :=
  match skipSpace flags.extended s with
  | [] => none
  | '[' :: rest =>
    match readAsciiClass? flags rest with
    | some (set, after) => some (.inl (o.add set 0, outer), after)
    | none => (openClass? flags rest).map fun (inner, after) => (.inl (inner, o :: outer), after)
  | ']' :: rest =>
    match outer with
    | [] => some (.inr (o.close flags, o.nesting + 1), rest)
    | parent :: outer =>
      some (.inl (parent.add (o.close flags) (o.nesting + 1), outer), rest)
  | '&' :: '&' :: rest => some (.inl (o.operate flags .inter, outer), rest)
  | '-' :: '-' :: rest => some (.inl (o.operate flags .diff, outer), rest)
  | '~' :: '~' :: rest => some (.inl (o.operate flags .symmDiff, outer), rest)
  | rest => (readRange? flags rest).map fun (set, after) => (.inl (o.add set 0, outer), after)

/-- The rest of a class.  Every step must leave less to read. -/
def readClassFrom? (flags : Flags) (o : OpenClass) (outer : List OpenClass)
    (s : List Char) : Option ((CharSet × Nat) × List Char) :=
  match classStep? flags o outer s with
  | none => none
  | some (.inr (set, depth), rest) => some ((set, depth), rest)
  | some (.inl (o, outer), rest) =>
    if rest.length < s.length then readClassFrom? flags o outer rest else none
termination_by s.length

/-- **A class in brackets** with the levels of its nesting, from what follows the opening
bracket. -/
def readClass? (flags : Flags) (s : List Char) : Option ((CharSet × Nat) × List Char) := do
  let (o, rest) ← openClass? flags s
  let ((set, depth), after) ← readClassFrom? flags o [] rest
  return ((← checked? flags set, depth), after)

end RecordFlow.Regex
