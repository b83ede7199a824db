import RecordFlow.Value.Coercion
import RecordFlow.Yaml.Scalar

/-!
# Writing YAML

Values are written in block style: one field or item a line, a sequence inside a mapping
not indented further than the mapping, and empty collections in two characters.

A string stands without quotes where it would be read back as the same string, and in
single quotes where it would not.  A string with line ends is a literal block, and one
with characters that cannot be shown stands in double quotes with escapes.

## Main definitions

* `Yaml.Traits` — what the characters of a string permit.
* `Yaml.Style`, `Yaml.styleOf` — how a string is written.
* `Yaml.print` — a value in block style.
-/

namespace RecordFlow.Yaml

/-! ### Characters -/

/-- Whether the character ends a line. -/
def isBreak (c : Char) : Bool :=
  c == '\n' || c == '\r' || c.toNat == 0x85 || c.toNat == 0x2028 || c.toNat == 0x2029

/-- Whether the character separates words: white space, a line end, or the null
character. -/
def isGap (c : Char) : Bool :=
  c == ' ' || c == '\t' || isBreak c || c.toNat == 0

/-- Whether the character can be shown as it is. -/
def isShowable (c : Char) : Bool :=
  let code := c.toNat
  code == 0x0A || (0x20 ≤ code && code ≤ 0x7E) ||
    (0xA0 ≤ code && code ≤ 0xFFFD && code != 0xFEFF)

/-- The characters that mean something at the beginning of a scalar. -/
def indicators : List Char :=
  ['#', ',', '[', ']', '\x7b', '\x7d', '&', '*', '!', '|', '>', '"', '%', '@',
    Char.ofNat 0x27, Char.ofNat 0x60]

/-! ### Strings -/

/-- Whether a text is at its end or goes on with a gap. -/
def atGap : List Char → Bool
  | [] => true
  | c :: _ => isGap c

/-- Whether a mark inside a scalar would end it: a colon before a gap, or a number sign
after one. -/
def hasInnerMark (afterGap : Bool) : List Char → Bool
  | [] => false
  | c :: s => (c == ':' && atGap s) || (c == '#' && afterGap) || hasInnerMark (isGap c) s

/-- Whether a text would be taken for something else than a scalar. -/
def hasMark : List Char → Bool
  | [] => false
  | c :: s =>
    indicators.contains c || ((c == '?' || c == ':' || c == '-') && atGap s) ||
      (c :: s).take 3 == ['-', '-', '-'] || (c :: s).take 3 == ['.', '.', '.'] ||
      hasInnerMark (isGap c) s

/-- Whether a character of the first class comes right before one of the second. -/
def hasPair (first second : Char → Bool) : List Char → Bool
  | c :: d :: s => (first c && second d) || hasPair first second (d :: s)
  | _ => false

/-- **What the characters of a string permit.** -/
structure Traits where
  /-- It may stand without quotes. -/
  plain : Bool
  /-- It may stand in single quotes. -/
  single : Bool
  /-- It may be a literal block. -/
  literal : Bool

/-- Whether the character is a space. -/
def isSpace (c : Char) : Bool :=
  c == ' '

/-- What the characters of a string permit. -/
def Traits.ofText (s : List Char) : Traits :=
  let multiline := s.any isBreak
  let edge (p : Char → Bool) : Bool := (s.head?.any p) || (s.getLast?.any p)
  let breakSpace := hasPair isBreak isSpace s
  let unfit := hasPair isSpace isBreak s || !s.all isShowable
  { plain := !multiline && !edge isSpace && !unfit && !hasMark s
    single := !breakSpace && !unfit
    literal := !s.isEmpty && !(s.getLast?.any isSpace) && !unfit }

/-- **How a string is written.** -/
inductive Style where
  | plain
  | single
  | double
  | literal
deriving DecidableEq

/-- Whether a string without quotes would be read back as something else. -/
def isAmbiguous (s : List Char) : Bool :=
  match Meaning.ofText s with
  | .text => hasSuperfluousZero s
  | _ => true

/-- **How a string is written.**  A key on one line with its value is never a literal
block. -/
def styleOf (s : List Char) : Style :=
  let t := Traits.ofText s
  let quoted : Style := if t.single then .single else .double
  if s.contains '\n' then (if t.literal then .literal else .double)
  else if isAmbiguous s then quoted
  else if t.plain then .plain
  else quoted

/-- The indentation of some depth. -/
def pad (depth : Nat) : List Char :=
  List.replicate depth ' '

/-- A text whose lines are indented, all but the first one where `fresh` does not hold;
`write` says how a character is written. -/
def indentLines (depth : Nat) (write : Char → List Char) : Bool → List Char → List Char
  | _, [] => []
  | fresh, c :: s =>
    if isBreak c then c :: indentLines depth write true s
    else (if fresh then pad depth else []) ++ write c ++ indentLines depth write false s

/-- A single quote inside single quotes is doubled. -/
def singleQuoted (depth : Nat) (s : List Char) : List Char :=
  let mark := Char.ofNat 0x27
  mark :: indentLines depth (fun c => if c = mark then [mark, mark] else [c]) false s ++
    (if s.getLast?.any isBreak then pad depth else []) ++ [mark]

/-- The upper-case hexadecimal digits of a number, to some width. -/
def hexDigits (width n : Nat) : List Char :=
  let digits := (Nat.toDigits 16 n).map Char.toUpper
  List.replicate (width - digits.length) '0' ++ digits

/-- The letters for characters that have an escape of their own. -/
def shortEscapes : List (Nat × Char) :=
  [(0x00, '0'), (0x07, 'a'), (0x08, 'b'), (0x09, 't'), (0x0A, 'n'), (0x0B, 'v'), (0x0C, 'f'),
    (0x0D, 'r'), (0x1B, 'e'), (0x22, '"'), (0x5C, '\\'), (0x85, 'N'), (0xA0, '_'),
    (0x2028, 'L'), (0x2029, 'P')]

/-- A character inside double quotes. -/
def escaped (c : Char) : List Char :=
  let code := c.toNat
  if isShowable c && !isBreak c && c != '"' && c != '\\' then [c]
  else
    match shortEscapes.lookup code with
    | some letter => ['\\', letter]
    | none =>
      if code ≤ 0xFF then '\\' :: 'x' :: hexDigits 2 code
      else if code ≤ 0xFFFF then '\\' :: 'u' :: hexDigits 4 code
      else '\\' :: 'U' :: hexDigits 8 code

/-- A string in double quotes. -/
def doubleQuoted (s : List Char) : List Char :=
  '"' :: s.flatMap escaped ++ ['"']

/-- What the head of a literal block says about its first line and its last line ends. -/
def literalHints (s : List Char) : List Char :=
  (if s.head?.any (fun c => isSpace c || isBreak c) then ['2'] else []) ++
    match s.reverse with
    | [] => ['-']
    | [c] => if isBreak c then ['+'] else ['-']
    | c :: d :: _ => if !isBreak c then ['-'] else if isBreak d then ['+'] else []

/-- **A string in its style,** inside a collection whose scalars go on at some depth. -/
def stringText (depth : Nat) (s : List Char) : List Char :=
  match styleOf s with
  | .plain => s
  | .single => singleQuoted depth s
  | .double => doubleQuoted s
  | .literal =>
    '|' :: literalHints s ++ '\n' :: indentLines depth (fun c => [c]) true s

/-! ### Values -/

/-- **How numbers are written:** as in JSON, but without a sign before a positive
power. -/
def numberLayout : DecimalLayout :=
  { least := -5, beyond := 16, pointZero := true, plusSign := false, tieUp := false }

/-- A number. -/
def numberText : Number → List Char
  | .int n => intText n
  | .float (.finite s m e _) => numberLayout.render s m e
  | .float .nan => ".nan".toList
  | .float (.infinite s) => (if s then ['-'] else []) ++ ".inf".toList

/-- The text with a line end, unless it has one. -/
def closed (s : List Char) : List Char :=
  if s.getLast?.any isBreak then s else s ++ ['\n']

/-- Whether a key stands on one line with its value. -/
def isSimpleKey (key : String) : Bool :=
  !(key.toList.any isBreak) && key.utf8ByteSize ≤ 128

/-- What a scalar or an empty collection is written as, and nothing for others. -/
def inline? (depth : Nat) : Value → Option (List Char)
  | .null => some "null".toList
  | .bool b => some (if b then "true".toList else "false".toList)
  | .num n => some (numberText n)
  | .str s => some (stringText depth s.toList)
  | .arr [] => some ['[', ']']
  | .obj [] => some ['\x7b', '\x7d']
  | _ => none

mutual

/-- A value after the mark of an item at some depth, up to its last line end. -/
def afterMark (depth : Nat) : Value → List Char
  | .arr (item :: rest) => items (depth + 2) (item :: rest)
  | .obj (field :: rest) => fields (depth + 2) (field :: rest)
  | v => closed ((inline? (depth + 2) v).getD [])

/-- A value after a key at some depth, up to its last line end. -/
def afterKey (depth : Nat) : Value → List Char
  | .arr (item :: rest) => '\n' :: pad depth ++ items depth (item :: rest)
  | .obj (field :: rest) => '\n' :: pad (depth + 2) ++ fields (depth + 2) (field :: rest)
  | v => ' ' :: closed ((inline? (depth + 2) v).getD [])

/-- The items of a sequence; the first line is not indented. -/
def items (depth : Nat) : List Value → List Char
  | [] => []
  | item :: rest =>
    '-' :: ' ' :: afterMark depth item ++
      (if rest.isEmpty then [] else pad depth) ++ items depth rest

/-- The fields of a mapping; the first line is not indented. -/
def fields (depth : Nat) : List (String × Value) → List Char
  | [] => []
  | (key, value) :: rest =>
    (if isSimpleKey key then stringText (depth + 2) key.toList ++ ':' :: afterKey depth value
     else
      '?' :: ' ' :: closed (stringText (depth + 2) key.toList) ++ pad depth ++
        ':' :: ' ' :: afterMark depth value) ++
      (if rest.isEmpty then [] else pad depth) ++ fields depth rest

end

/-- **A value in block style.** -/
def print : Value → List Char
  | .arr (item :: rest) => items 0 (item :: rest)
  | .obj (field :: rest) => fields 0 (field :: rest)
  | v => closed ((inline? 2 v).getD [])

end RecordFlow.Yaml
