import RecordFlow.Number.Numeral
import RecordFlow.Text.Search
import RecordFlow.Value.Basic

/-!
# Scalars of TOML

Strings stand in double quotes with escapes, or in single quotes without.  Numbers may
have underscores between their digits, and integers may be written in base two, eight or
sixteen.  Dates are not read.

## Main definitions

* `Toml.scanString?` — a string that a text begins with.
* `Toml.bareValue?` — the value of a word, a number or a truth value.
* `Toml.scanKey?` — a key that a text begins with.
-/

namespace RecordFlow.Toml

/-! ### Strings -/

/-- The character that a letter after a backslash stands for. -/
def simpleEscape? : Char → Option Char
  | 'b' => some (Char.ofNat 8)
  | 't' => some '\t'
  | 'n' => some '\n'
  | 'f' => some (Char.ofNat 12)
  | 'r' => some '\r'
  | '"' => some '"'
  | '\\' => some '\\'
  | _ => none

/-- The value of a hexadecimal digit. -/
def hexDigit? (c : Char) : Option Nat :=
  if '0' ≤ c ∧ c ≤ '9' then some (c.toNat - 48)
  else if 'a' ≤ c ∧ c ≤ 'f' then some (c.toNat - 87)
  else if 'A' ≤ c ∧ c ≤ 'F' then some (c.toNat - 55)
  else none

/-- The number that digits spell in some base. -/
def readInBase? (base : Nat) (s : List Char) : Option Nat :=
  if s.isEmpty then none
  else s.foldlM (fun n c => ((hexDigit? c).filter (· < base)).map (base * n + ·)) 0

/-- The character that some hexadecimal digits spell. -/
def hexEscape? (width : Nat) (s : List Char) : Option Char :=
  let digits := s.take width
  if digits.length = width then
    (readInBase? 16 digits).bind fun code =>
      if code.isValidChar then some (Char.ofNat code) else none
  else none

/-- Whether the character may stand in a string. -/
def isStringChar (c : Char) : Bool :=
  c == '\t' || (32 ≤ c.toNat && c.toNat != 127)

/-- The characters in double quotes, from what follows the first one, and what follows
the last one.  `skip` is the number of characters that an escape has used already. -/
def scanBasic? : Nat → List Char → Option (List Char × List Char)
  | _, [] => none
  | skip + 1, _ :: s => scanBasic? skip s
  | 0, '"' :: s => some ([], s)
  | 0, '\\' :: c :: s =>
    match simpleEscape? c with
    | some d => (scanBasic? 1 (c :: s)).map fun (text, rest) => (d :: text, rest)
    | none =>
      (if c = 'u' then some 4 else if c = 'U' then some 8 else none).bind fun width =>
        (hexEscape? width s).bind fun d =>
          (scanBasic? (width + 1) (c :: s)).map fun (text, rest) => (d :: text, rest)
  | 0, c :: s =>
    if isStringChar c then (scanBasic? 0 s).map fun (text, rest) => (c :: text, rest)
    else none

/-- The single quote. -/
def singleQuote : Char := Char.ofNat 0x27

/-- The characters in single quotes, from what follows the first one, and what follows
the last one. -/
def scanLiteral? : List Char → Option (List Char × List Char)
  | [] => none
  | c :: s =>
    if c = singleQuote then some ([], s)
    else if isStringChar c then (scanLiteral? s).map fun (text, rest) => (c :: text, rest)
    else none

/-- **A string that a text begins with,** and what follows. -/
def scanString? : List Char → Option (List Char × List Char)
  | [] => none
  | c :: s =>
    if c = '"' then scanBasic? 0 s
    else if c = singleQuote then scanLiteral? s
    else none

/-! ### Words and numbers -/

/-- The text without the underscores between its digits; one that stands elsewhere makes
it no number. -/
def dropUnderscores? : List Char → Option (List Char)
  | [] => some []
  | ['_'] => none
  | '_' :: _ => none
  | [c] => some [c]
  | c :: '_' :: d :: s =>
    if (hexDigit? c).isSome && (hexDigit? d).isSome then
      (dropUnderscores? (d :: s)).map (c :: ·)
    else none
  | c :: s => (dropUnderscores? s).map (c :: ·)

/-- The integer of sixty-four bits that a text without underscores spells. -/
def readInteger? (s : List Char) : Option Int :=
  let n? : Option Int :=
    match s with
    | '0' :: 'x' :: digits => (readInBase? 16 digits).map fun n => (n : Int)
    | '0' :: 'o' :: digits => (readInBase? 8 digits).map fun n => (n : Int)
    | '0' :: 'b' :: digits => (readInBase? 2 digits).map fun n => (n : Int)
    | _ =>
      let digits := s.dropWhile fun c => c == '+' || c == '-'
      if digits.length ≠ 1 ∧ digits.head? = some '0' then none else readInt? s
  n?.filter fun n => -2 ^ 63 ≤ n ∧ n < 2 ^ 63

/-- Whether a numeral has digits on both sides of its point, and no superfluous zero. -/
def isProperFloat (s : List Char) : Bool :=
  let unsigned := s.dropWhile fun c => c == '+' || c == '-'
  let whole := unsigned.takeWhile Text.isAsciiDigit
  !whole.isEmpty && (whole.length == 1 || whole.head? != some '0') &&
    match unsigned.dropWhile Text.isAsciiDigit with
    | '.' :: rest => rest.head?.any Text.isAsciiDigit
    | _ => true

/-- **The value of a word without quotes:** a truth value or a number.  A number that is
not finite is null. -/
def bareValue? (word : List Char) : Option Value :=
  match String.ofList word with
  | "true" => some (.bool true)
  | "false" => some (.bool false)
  | "inf" | "+inf" | "-inf" | "nan" | "+nan" | "-nan" => some .null
  | _ =>
    (dropUnderscores? word).bind fun s =>
      match readInteger? s with
      | some n => some (.int n)
      | none =>
        if isProperFloat s && s.any (fun c => c == '.' || c == 'e' || c == 'E') then
          (readNumber? s).map fun x => if x.isFinite then .num (.float x) else .null
        else none

/-! ### Keys -/

/-- Whether the character is white space inside a line. -/
def isSpace (c : Char) : Bool :=
  c == ' ' || c == '\t'

/-- Whether the character may stand in a key without quotes. -/
def isKeyChar (c : Char) : Bool :=
  Text.isAsciiLetter c || Text.isAsciiDigit c || c == '_' || c == '-'

/-- One part of a key, and what follows. -/
def scanKeyPart? (s : List Char) : Option (String × List Char) :=
  match scanString? s with
  | some (text, rest) => some (String.ofList text, rest)
  | none =>
    let word := s.takeWhile isKeyChar
    if word.isEmpty then none else some (String.ofList word, s.dropWhile isKeyChar)

/-- A key of parts joined by points, and what follows; `fuel` bounds the number of
parts. -/
def scanKeyParts? : Nat → List Char → Option (List String × List Char)
  | 0, _ => none
  | fuel + 1, s => do
    let (part, rest) ← scanKeyPart? (s.dropWhile isSpace)
    match rest.dropWhile isSpace with
    | '.' :: more =>
      let (parts, last) ← scanKeyParts? fuel more
      return (part :: parts, last)
    | after => return ([part], after)

/-- **A key that a text begins with,** and what follows. -/
def scanKey? (s : List Char) : Option (List String × List Char) :=
  scanKeyParts? (s.length + 1) s

end RecordFlow.Toml
