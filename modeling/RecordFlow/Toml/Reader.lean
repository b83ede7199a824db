import RecordFlow.Toml.Scalar

/-!
# Reading TOML

A text is a sequence of statements: a key with its value, or the heading of a table.  A heading
in single brackets opens a table, and one in double brackets adds a table to an array.  A path
through an array of tables goes through its last one.

This is the part of the language that settings and pipelines are usually written in.  Dates and
strings on several lines are not read, so not every text in TOML spells an object here.

## Main definitions

* `Toml.update?` — a value changed at a path.
* `Toml.Statement` — a statement.
* `Toml.read?` — the object that a text spells.
-/

namespace RecordFlow.Toml

/-! ### Tables -/

/-- The value changed by `change` at a path; tables on the way are made where they are
missing. -/
def update? (change : Option Value → Option Value) :
    List String → Option Value → Option Value
  | [], v => change v
  | part :: rest, none => (update? change rest none).map fun v => .obj [(part, v)]
  | part :: rest, some (.obj fields) =>
    (update? change rest (Fields.get? fields part)).map fun v =>
      .obj (Fields.insert fields part v)
  | part :: rest, some (.arr items) =>
    match items.getLast? with
    | some (.obj fields) =>
      (update? change rest (Fields.get? fields part)).map fun v =>
        .arr (items.dropLast ++ [.obj (Fields.insert fields part v)])
    | _ => none
  | _ :: _, some _ => none

/-- A value where there is none yet. -/
def setNew (v : Value) : Option Value → Option Value
  | none => some v
  | some _ => none

/-- A table, which may be there already. -/
def openTable : Option Value → Option Value
  | none => some (.obj [])
  | some (.obj fields) => some (.obj fields)
  | some (.arr items) => if items.isEmpty then none else some (.arr items)
  | some _ => none

/-- An array of tables with one more table. -/
def addTable : Option Value → Option Value
  | none => some (.arr [.obj []])
  | some (.arr items) => some (.arr (items ++ [.obj []]))
  | some _ => none

/-! ### Values -/

/-- A text without the white space, line ends and remarks in front; `remark` says whether a
remark is being passed over. -/
def skipIdle : Bool → List Char → List Char
  | _, [] => []
  | true, c :: s => skipIdle (c != '\n') s
  | false, c :: s =>
    if c == '#' then skipIdle true s
    else if isSpace c || c == '\n' || c == '\r' then skipIdle false s
    else c :: s

/-- Whether the character ends a word. -/
def endsWord (c : Char) : Bool :=
  isSpace c || c == '\n' || c == '\r' || c == ',' || c == ']' || c == '\x7d' || c == '#'

mutual

/-- A value that a text begins with, and what follows; `fuel` bounds the number of steps. -/
def scanValue? : Nat → List Char → Option (Value × List Char)
  | 0, _ => none
  | fuel + 1, s =>
    match s with
    | '[' :: rest => (scanItems? fuel rest).map fun (items, after) => (.arr items, after)
    | '\x7b' :: rest => scanFields? fuel none (rest.dropWhile isSpace)
    | _ =>
      match scanString? s with
      | some (text, rest) => some (.text text, rest)
      | none =>
        (bareValue? (s.takeWhile (!endsWord ·))).map (·, s.dropWhile (!endsWord ·))

/-- The items up to a closing bracket. -/
def scanItems? : Nat → List Char → Option (List Value × List Char)
  | 0, _ => none
  | fuel + 1, s =>
    match skipIdle false s with
    | ']' :: rest => some ([], rest)
    | rest => do
      let (item, after) ← scanValue? fuel rest
      match skipIdle false after with
      | ',' :: more =>
        let (items, last) ← scanItems? fuel more
        return (item :: items, last)
      | ']' :: last => return ([item], last)
      | _ => none

/-- The fields up to a closing brace, on one line, added to those of a table. -/
def scanFields? : Nat → Option Value → List Char → Option (Value × List Char)
  | 0, _, _ => none
  | fuel + 1, table, s =>
    match table, s with
    | none, '\x7d' :: rest => some (.obj [], rest)
    | table, s => do
      let (key, rest) ← scanKey? s
      match rest with
      | '=' :: text =>
        let (v, after) ← scanValue? fuel (text.dropWhile isSpace)
        let next ← update? (setNew v) key table
        match after.dropWhile isSpace with
        | ',' :: more => scanFields? fuel (some next) (more.dropWhile isSpace)
        | '\x7d' :: last => return (next, last)
        | _ => none
      | _ => none

end

/-! ### Statements -/

/-- **A statement.** -/
inductive Statement where
  /-- The heading of a table. -/
  | table (key : List String)
  /-- The heading of a table in an array. -/
  | item (key : List String)
  /-- A key with its value. -/
  | field (key : List String) (value : Value)

/-- What follows the end of a line, where nothing but a remark is left on it. -/
def endOfLine? (s : List Char) : Option (List Char) :=
  match s.dropWhile fun c => isSpace c || c == '\r' with
  | [] => some []
  | '\n' :: rest => some rest
  | '#' :: rest => some (rest.dropWhile (· != '\n'))
  | _ => none

/-- The statement that a text begins with, and what follows its line. -/
def scanStatement? (s : List Char) : Option (Statement × List Char) :=
  match s with
  | '[' :: '[' :: rest =>
    (scanKey? rest).bind fun (key, after) =>
      match after with
      | ']' :: ']' :: last => (endOfLine? last).map (.item key, ·)
      | _ => none
  | '[' :: rest =>
    (scanKey? rest).bind fun (key, after) =>
      match after with
      | ']' :: last => (endOfLine? last).map (.table key, ·)
      | _ => none
  | _ =>
    (scanKey? s).bind fun (key, after) =>
      match after with
      | '=' :: text =>
        (scanValue? (s.length + 1) (text.dropWhile isSpace)).bind fun (v, last) =>
          (endOfLine? last).map (.field key v, ·)
      | _ => none

/-- The statements of a text; `fuel` bounds their number. -/
def statements? : Nat → List Char → Option (List Statement)
  | 0, _ => none
  | fuel + 1, s =>
    match skipIdle false s with
    | [] => some []
    | rest =>
      (scanStatement? rest).bind fun (statement, after) =>
        (statements? fuel after).map (statement :: ·)

/-- The object that the statements make of another, under the heading of some table. -/
def build? (heading : List String) (root : Value) : List Statement → Option Value
  | [] => some root
  | .table key :: rest =>
    (update? openTable key (some root)).bind fun next => build? key next rest
  | .item key :: rest =>
    (update? addTable key (some root)).bind fun next => build? key next rest
  | .field key v :: rest =>
    (update? (setNew v) (heading ++ key) (some root)).bind fun next =>
      build? heading next rest

/-- **The object that a text spells.** -/
def read? (s : List Char) : Option Value :=
  (statements? (s.length + 1) s).bind (build? [] (.obj []))

end RecordFlow.Toml
