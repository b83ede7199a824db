import RecordFlow.Value.Coercion

/-!
# Writing JSON

Values are written in two layouts: compact, without any white space, and indented,
with each item or field on a line of its own.  An empty array or object is written in
two characters in both.

## Main definitions

* `Json.quoted` — a text as a JSON string.
* `Json.compact` — a value without white space.
* `Json.indented` — a value on indented lines.
-/

namespace RecordFlow.Json

/-- **How numbers are written in JSON:** positionally from `10 ^ -5` up to `10 ^ 16`,
and always with a fraction or a power of ten, which tells them from integers. -/
def numberLayout : DecimalLayout :=
  { least := -5, beyond := 16, pointZero := true, plusSign := true, tieUp := false }

/-- The hexadecimal digit of a number below sixteen. -/
def hexChar (n : Nat) : Char :=
  if n < 10 then Char.ofNat (48 + n) else Char.ofNat (87 + n)

/-- A character inside a JSON string. -/
def escaped (c : Char) : List Char :=
  if c = '"' then ['\\', '"']
  else if c = '\\' then ['\\', '\\']
  else if c = '\n' then ['\\', 'n']
  else if c = '\r' then ['\\', 'r']
  else if c = '\t' then ['\\', 't']
  else if c.toNat = 8 then ['\\', 'b']
  else if c.toNat = 12 then ['\\', 'f']
  else if c.toNat < 32 then ['\\', 'u', '0', '0', hexChar (c.toNat / 16), hexChar (c.toNat % 16)]
  else [c]

/-- **A text as a JSON string.** -/
def quoted (s : List Char) : List Char :=
  '"' :: s.flatMap escaped ++ ['"']

/-- A number in JSON; what is not finite has no form there and is null. -/
def numberText : Number → List Char
  | .int n => intText n
  | .float (.finite s m e _) => numberLayout.render s m e
  | .float _ => "null".toList

mutual

/-- **A value without white space.** -/
def compact : Value → List Char
  | .null => "null".toList
  | .bool true => "true".toList
  | .bool false => "false".toList
  | .num n => numberText n
  | .str s => quoted s.toList
  | .arr items => '[' :: compactItems items ++ [']']
  | .obj fields => '\x7b' :: compactFields fields ++ ['\x7d']

/-- The items of an array with commas between them. -/
def compactItems : List Value → List Char
  | [] => []
  | [item] => compact item
  | item :: next :: rest => compact item ++ ',' :: compactItems (next :: rest)

/-- The fields of an object with commas between them. -/
def compactFields : List (String × Value) → List Char
  | [] => []
  | [(name, value)] => quoted name.toList ++ ':' :: compact value
  | (name, value) :: next :: rest =>
    quoted name.toList ++ ':' :: compact value ++ ',' :: compactFields (next :: rest)

end

/-- A line end and the indentation of a nesting depth: two spaces for each level. -/
def newline (depth : Nat) : List Char :=
  '\n' :: List.replicate (2 * depth) ' '

mutual

/-- A value on indented lines, inside containers of the given depth. -/
def indentedAt (depth : Nat) : Value → List Char
  | .arr (item :: rest) =>
    '[' :: newline (depth + 1) ++ indentedItems (depth + 1) (item :: rest)
      ++ newline depth ++ [']']
  | .obj (field :: rest) =>
    '\x7b' :: newline (depth + 1) ++ indentedFields (depth + 1) (field :: rest)
      ++ newline depth ++ ['\x7d']
  | .arr [] => ['[', ']']
  | .obj [] => ['\x7b', '\x7d']
  | .null => "null".toList
  | .bool true => "true".toList
  | .bool false => "false".toList
  | .num n => numberText n
  | .str s => quoted s.toList

/-- The items of an array, each on a line of its own. -/
def indentedItems (depth : Nat) : List Value → List Char
  | [] => []
  | [item] => indentedAt depth item
  | item :: next :: rest =>
    indentedAt depth item ++ ',' :: newline depth ++ indentedItems depth (next :: rest)

/-- The fields of an object, each on a line of its own. -/
def indentedFields (depth : Nat) : List (String × Value) → List Char
  | [] => []
  | [(name, value)] => quoted name.toList ++ ':' :: ' ' :: indentedAt depth value
  | (name, value) :: next :: rest =>
    quoted name.toList ++ ':' :: ' ' :: indentedAt depth value ++
      ',' :: newline depth ++ indentedFields depth (next :: rest)

end

/-- **A value on indented lines.** -/
def indented (v : Value) : List Char :=
  indentedAt 0 v

end RecordFlow.Json
