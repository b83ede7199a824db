import RecordFlow.Text.Blank
import RecordFlow.Text.Search
import RecordFlow.Yaml.Node

/-!
# Reading YAML

A text is read line by line: the indentation of a line says where it belongs.  Sequences and
mappings in block style are read, collections in brackets and braces on one line, and scalars
without quotes or in either kind of quotes.

This is the part of the language that settings and pipelines are usually written in.  Scalars on
several lines, anchors and tags are not read, so not every text in YAML spells a tree here.

## Main definitions

* `Yaml.Line` — a line with its indentation.
* `Yaml.lines` — the lines that are not empty.
* `Yaml.read?` — the tree that a text spells.
-/

namespace RecordFlow.Yaml

/-! ### Lines -/

/-- **A line that is not empty.** -/
structure Line where
  /-- The number of spaces in front. -/
  indent : Nat
  /-- The text, which does not begin or end in white space. -/
  text : List Char

/-- Whether a text is empty or a remark. -/
def isIdle (s : List Char) : Bool :=
  s.isEmpty || s.head? == some '#'

/-- **The lines that are neither empty nor remarks.** -/
def lines (s : List Char) : List Line :=
  (Text.splitOn ['\n'] s).filterMap fun raw =>
    let text := Text.trim raw
    if isIdle text then none else some ⟨(raw.takeWhile (· == ' ')).length, text⟩

/-- Whether a line is the mark that a document begins with. -/
def isMark (line : Line) : Bool :=
  line.indent = 0 && line.text == ['-', '-', '-']

/-- The lines of a document, from those of a text.  The mark may stand before the first of them;
further down it would begin another document. -/
def documentLines? (all : List Line) : Option (List Line) :=
  let rest := match all with
    | line :: rest => if isMark line then rest else all
    | [] => []
  if rest.any isMark then none else some rest

/-- Whether a text is at its end or goes on with a blank. -/
def atBlank : List Char → Bool
  | [] => true
  | c :: _ => c == ' ' || c == '\t'

/-- Whether a line is an item of a sequence. -/
def isItem : List Char → Bool
  | '-' :: s => atBlank s
  | _ => false

/-! ### Scalars -/

/-- The character that a letter after a backslash stands for. -/
def simpleEscape? : Char → Option Char
  | '0' => some (Char.ofNat 0)
  | 'a' => some (Char.ofNat 7)
  | 'b' => some (Char.ofNat 8)
  | 't' => some '\t'
  | 'n' => some '\n'
  | 'v' => some (Char.ofNat 11)
  | 'f' => some (Char.ofNat 12)
  | 'r' => some '\r'
  | 'e' => some (Char.ofNat 27)
  | ' ' => some ' '
  | '"' => some '"'
  | '/' => some '/'
  | '\\' => some '\\'
  | 'N' => some (Char.ofNat 0x85)
  | '_' => some (Char.ofNat 0xA0)
  | 'L' => some (Char.ofNat 0x2028)
  | 'P' => some (Char.ofNat 0x2029)
  | _ => none

/-- The number of hexadecimal digits after a letter. -/
def escapeWidth? : Char → Option Nat
  | 'x' => some 2
  | 'u' => some 4
  | 'U' => some 8
  | _ => none

/-- The character of a code, which must be one. -/
def charOfCode? (code : Nat) : Option Char :=
  if code.isValidChar then some (Char.ofNat code) else none

/-- The character that some hexadecimal digits spell, and the number of digits. -/
def hexEscape? (width : Nat) (s : List Char) : Option Char :=
  let digits := s.take width
  if digits.length = width then (readInBase? 16 digits).bind charOfCode? else none

/-- The characters in double quotes, from what follows the first one, and what follows the last
one.  `skip` is the number of characters that an escape has used already. -/
def scanDouble? : Nat → List Char → Option (List Char × List Char)
  | _, [] => none
  | skip + 1, _ :: s => scanDouble? skip s
  | 0, '"' :: s => some ([], s)
  | 0, '\\' :: c :: s =>
    match simpleEscape? c with
    | some d => (scanDouble? 1 (c :: s)).map fun (text, rest) => (d :: text, rest)
    | none =>
      (escapeWidth? c).bind fun width =>
        (hexEscape? width s).bind fun d =>
          (scanDouble? (width + 1) (c :: s)).map fun (text, rest) => (d :: text, rest)
  | 0, c :: s => (scanDouble? 0 s).map fun (text, rest) => (c :: text, rest)

/-- The single quote. -/
def singleQuote : Char := Char.ofNat 0x27

/-- The characters in single quotes, from what follows the first one, and what follows the last
one. -/
def scanSingle? : List Char → Option (List Char × List Char)
  | [] => none
  | [c] => if c = singleQuote then some ([], []) else none
  | c :: d :: s =>
    if c = singleQuote then
      if d = singleQuote then
        (scanSingle? s).map fun (text, rest) => (singleQuote :: text, rest)
      else some ([], d :: s)
    else (scanSingle? (d :: s)).map fun (text, rest) => (c :: text, rest)

/-- A scalar in quotes that a text begins with, and what follows. -/
def scanQuoted? : List Char → Option (List Char × List Char)
  | [] => none
  | c :: s =>
    if c = '"' then scanDouble? 0 s
    else if c = singleQuote then scanSingle? s
    else none

/-- A text without the remark at its end. -/
def dropRemark (s : List Char) : List Char :=
  match Text.cutAt? [' ', '#'] s with
  | some (before, _) => Text.trimEnd before
  | none => s

/-- Whether a colon in a text ends a key. -/
def hasKeyMark : List Char → Bool
  | [] => false
  | c :: s => (c == ':' && atBlank s) || hasKeyMark s

/-- Whether a text can begin a scalar without quotes. -/
def beginsPlain : List Char → Bool
  | [] => false
  | c :: s =>
    if c == '-' || c == '?' || c == ':' then !atBlank s
    else !([',', '[', ']', '\x7b', '\x7d', '#', '&', '*', '!', '|', '>', '"', '%', '@',
      singleQuote, Char.ofNat 0x60].contains c)

/-- The key that a text begins with, up to its colon: the characters before it, and what follows
it. -/
def cutKey? : List Char → Option (List Char × List Char)
  | [] => none
  | c :: s =>
    if c = ':' ∧ atBlank s then some ([], s)
    else (cutKey? s).map fun (key, rest) => (c :: key, rest)

/-- A field of a mapping: its name, and the text of its value. -/
def splitField? (s : List Char) : Option (String × List Char) :=
  match scanQuoted? s with
  | some (key, rest) =>
    match Text.trimStart rest with
    | ':' :: after =>
      if atBlank after then some (String.ofList key, Text.trimStart after) else none
    | _ => none
  | none =>
    if beginsPlain s then
      (cutKey? (dropRemark s)).map fun (key, _) =>
        (String.ofList (Text.trimEnd key), Text.trimStart (s.drop (key.length + 1)))
    else none

/-! ### Collections on one line -/

/-- Whether the character ends a scalar inside brackets or braces. -/
def isFlowMark (c : Char) : Bool :=
  [',', '[', ']', '\x7b', '\x7d'].contains c

/-- The scalar without quotes that a text inside brackets or braces begins with, and what
follows. -/
def scanFlowPlain : List Char → List Char × List Char
  | [] => ([], [])
  | c :: s =>
    if isFlowMark c || (c == ':' && (atBlank s || s.head?.any isFlowMark)) then ([], c :: s)
    else
      let (text, rest) := scanFlowPlain s
      (c :: text, rest)

/-- A scalar inside brackets or braces, and what follows. -/
def scanFlowScalar? (s : List Char) : Option (Node × List Char) :=
  match scanQuoted? s with
  | some (text, rest) => some (.quoted text, rest)
  | none =>
    if beginsPlain s then
      let (text, rest) := scanFlowPlain s
      some (.plain (Text.trimEnd text), rest)
    else none

mutual

/-- A node inside brackets or braces, and what follows; `fuel` bounds the number of steps. -/
def flowNode? : Nat → List Char → Option (Node × List Char)
  | 0, _ => none
  | fuel + 1, s =>
    match Text.trimStart s with
    | '[' :: rest =>
      (flowItems? fuel rest).map fun (items, after) => (.sequence items, after)
    | '\x7b' :: rest =>
      (flowFields? fuel rest).map fun (fields, after) => (.mapping fields, after)
    | rest => scanFlowScalar? rest

/-- The items up to a closing bracket. -/
def flowItems? : Nat → List Char → Option (List Node × List Char)
  | 0, _ => none
  | fuel + 1, s =>
    match Text.trimStart s with
    | ']' :: rest => some ([], rest)
    | rest => do
      let (item, after) ← flowNode? fuel rest
      match Text.trimStart after with
      | ',' :: more =>
        let (items, last) ← flowItems? fuel more
        return (item :: items, last)
      | ']' :: last => return ([item], last)
      | _ => none

/-- The fields up to a closing brace. -/
def flowFields? : Nat → List Char → Option (List (String × Node) × List Char)
  | 0, _ => none
  | fuel + 1, s =>
    match Text.trimStart s with
    | '\x7d' :: rest => some ([], rest)
    | rest => do
      let (key, after) ← scanFlowScalar? rest
      let name ← match key with
        | .plain text | .quoted text => some (String.ofList text)
        | _ => none
      let (node, more) ← match Text.trimStart after with
        | ':' :: value => flowNode? fuel value
        | other => some (.plain [], other)
      match Text.trimStart more with
      | ',' :: next =>
        let (fields, last) ← flowFields? fuel next
        return ((name, node) :: fields, last)
      | '\x7d' :: last => return ([(name, node)], last)
      | _ => none

end

/-- **The node that stands on one line.** -/
def inlineNode? (s : List Char) : Option Node :=
  match s with
  | '[' :: _ | '\x7b' :: _ =>
    (flowNode? (2 * s.length + 2) s).bind fun (node, rest) =>
      if isIdle (Text.trimStart rest) then some node else none
  | _ =>
    match scanQuoted? s with
    | some (text, rest) => if isIdle (Text.trimStart rest) then some (.quoted text) else none
    | none =>
      let text := dropRemark s
      if beginsPlain text && !hasKeyMark text then some (.plain text) else none

/-! ### Collections on several lines -/

mutual

/-- The node of the lines indented by at least `least`, and the other lines; `fuel` bounds the
number of steps. -/
def node? : Nat → Nat → List Line → Option (Node × List Line)
  | 0, _, _ => none
  | _ + 1, _, [] => some (.plain [], [])
  | fuel + 1, least, line :: rest =>
    if line.indent < least then some (.plain [], line :: rest)
    else if isItem line.text then
      (items? fuel line.indent (line :: rest)).map fun (items, after) =>
        (.sequence items, after)
    else if (splitField? line.text).isSome then
      (fields? fuel line.indent (line :: rest)).map fun (fields, after) =>
        (.mapping fields, after)
    else (inlineNode? line.text).map (·, rest)

/-- The items of a sequence at some indentation. -/
def items? : Nat → Nat → List Line → Option (List Node × List Line)
  | 0, _, _ => none
  | _ + 1, _, [] => some ([], [])
  | fuel + 1, indent, line :: rest =>
    if line.indent = indent ∧ isItem line.text then do
      let text := line.text.drop 1
      let content := Text.trimStart text
      let inner : List Line :=
        if isIdle content then rest
        else ⟨indent + 1 + (text.length - content.length), content⟩ :: rest
      let (item, after) ← node? fuel (indent + 1) inner
      let (items, last) ← items? fuel indent after
      return (item :: items, last)
    else if indent < line.indent then none
    else some ([], line :: rest)

/-- The fields of a mapping at some indentation.  A sequence that is the value of a field may
stand at the indentation of the mapping. -/
def fields? : Nat → Nat → List Line → Option (List (String × Node) × List Line)
  | 0, _, _ => none
  | _ + 1, _, [] => some ([], [])
  | fuel + 1, indent, line :: rest =>
    if line.indent = indent ∧ !isItem line.text then do
      let (name, text) ← splitField? line.text
      let (node, after) ←
        if isIdle text then
          match rest with
          | [] => some (Node.plain [], [])
          | next :: _ =>
            if next.indent = indent ∧ isItem next.text then
              (items? fuel indent rest).map fun (items, after) => (.sequence items, after)
            else node? fuel (indent + 1) rest
        else (inlineNode? text).map (·, rest)
      let (fields, last) ← fields? fuel indent after
      return ((name, node) :: fields, last)
    else if indent < line.indent then none
    else some ([], line :: rest)

end

/-- **The tree that a text spells;** a text without any line spells none, and neither does a
text of several documents. -/
def read? (s : List Char) : Option Node :=
  match documentLines? (lines s) with
  | none | some [] => none
  | some all =>
    match node? (2 * s.length + 4) 0 all with
    | some (node, []) => some node
    | _ => none

end RecordFlow.Yaml
