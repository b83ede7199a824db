import RecordFlow.Json.Number

/-!
# Tokens of JSON

A JSON text is a sequence of tokens: the six punctuation marks, strings, numbers and the three
words.  White space between tokens is dropped.

A token is told by how it is written.  Some tokens are written well and mean nothing: a string
may hold half of a surrogate pair, and a number may be beyond the finite ones.  That matters
only where such a token is used.

## Main definitions

* `Json.Token` — a token.
* `Json.scanString?` — the string that a text begins with.
* `Json.tokens?` — the tokens of a text, unless some part of it is no token.
-/

namespace RecordFlow.Json

/-- **A token.** -/
inductive Token where
  | openArray
  | closeArray
  | openObject
  | closeObject
  | comma
  | colon
  /-- A string, with its characters if all its escapes stand for some. -/
  | string (s : Option (List Char))
  /-- A number or a word, with its value if it has one. -/
  | scalar (v : Option Value)

/-- Whether the character is white space between tokens. -/
def isSpace (c : Char) : Bool :=
  c == ' ' || c == '\t' || c == '\n' || c == '\r'

/-! ### Strings -/

/-- The value of a hexadecimal digit in either case. -/
def hexValue? (c : Char) : Option Nat :=
  if '0' ≤ c ∧ c ≤ '9' then some (c.toNat - 48)
  else if 'a' ≤ c ∧ c ≤ 'f' then some (c.toNat - 87)
  else if 'A' ≤ c ∧ c ≤ 'F' then some (c.toNat - 55)
  else none

/-- The number that four hexadecimal digits spell. -/
def hexUnit? (a b c d : Char) : Option Nat := do
  return ((← hexValue? a) * 16 + (← hexValue? b)) * 256 +
    ((← hexValue? c) * 16 + (← hexValue? d))

/-- Whether a code unit is the first half of a surrogate pair. -/
def isHighSurrogate (n : Nat) : Bool :=
  0xD800 ≤ n && n ≤ 0xDBFF

/-- Whether a code unit is the second half of a surrogate pair. -/
def isLowSurrogate (n : Nat) : Bool :=
  0xDC00 ≤ n && n ≤ 0xDFFF

/-- The character that a letter after a backslash stands for. -/
def simpleEscape? : Char → Option Char
  | '"' => some '"'
  | '\\' => some '\\'
  | '/' => some '/'
  | 'b' => some (Char.ofNat 8)
  | 'f' => some (Char.ofNat 12)
  | 'n' => some '\n'
  | 'r' => some '\r'
  | 't' => some '\t'
  | _ => none

/-- The second half of a surrogate pair, if an escape by code units with one follows. -/
def lowHalf? : List Char → Option (Nat × List Char)
  | '\\' :: 'u' :: a :: b :: c :: d :: s =>
    (hexUnit? a b c d).bind fun n => if isLowSurrogate n then some (n, s) else none
  | _ => none

/-- The character of an escape by code units, from what follows `\u`.  A surrogate stands for a
character only as half of a pair. -/
def unicodeEscape? : List Char → Option (Option Char × List Char)
  | a :: b :: c :: d :: s =>
    (hexUnit? a b c d).map fun n =>
      if isHighSurrogate n then
        match lowHalf? s with
        | some (m, rest) =>
          (some (Char.ofNat (0x10000 + (n - 0xD800) * 1024 + (m - 0xDC00))), rest)
        | none => (none, s)
      else if isLowSurrogate n then (none, s)
      else (some (Char.ofNat n), s)
  | _ => none

theorem length_of_lowHalf? {s r : List Char} {n : Nat} (h : lowHalf? s = some (n, r)) :
    r.length < s.length := by
  unfold lowHalf? at h
  split at h
  · obtain ⟨m, -, h⟩ := Option.bind_eq_some_iff.1 h
    split at h
    · cases h
      simp only [List.length_cons]
      omega
    · cases h
  · cases h

/-- An escape by code units takes at least four characters. -/
theorem length_of_unicodeEscape? {s r : List Char} {c : Option Char}
    (h : unicodeEscape? s = some (c, r)) : r.length < s.length := by
  unfold unicodeEscape? at h
  split at h
  · obtain ⟨n, -, h⟩ := Option.map_eq_some_iff.1 h
    split at h
    · split at h
      · next hlow =>
        cases h
        have hlength := length_of_lowHalf? hlow
        simp only [List.length_cons]
        omega
      · cases h
        simp only [List.length_cons]
        omega
    · split at h
      · cases h
        simp only [List.length_cons]
        omega
      · cases h
        simp only [List.length_cons]
        omega
  · cases h

/-- A character in front of a text, if both are there. -/
def put (c : Option Char) (text : Option (List Char)) : Option (List Char) :=
  c.bind fun c => text.map (c :: ·)

/-- **The characters of a string** up to its closing quote, and what follows it.  A control
character must be written as an escape. -/
def scanString? (s : List Char) : Option (Option (List Char) × List Char) :=
  match s with
  | [] => none
  | '"' :: rest => some (some [], rest)
  | '\\' :: 'u' :: rest =>
    match _h : unicodeEscape? rest with
    | none => none
    | some (c, rest') => (scanString? rest').map fun (text, after) => (put c text, after)
  | '\\' :: e :: rest =>
    (simpleEscape? e).bind fun c =>
      (scanString? rest).map fun (text, after) => (put (some c) text, after)
  | ['\\'] => none
  | c :: rest =>
    if c.toNat < 32 then none
    else (scanString? rest).map fun (text, after) => (put (some c) text, after)
termination_by s.length
decreasing_by
  all_goals first
    | (have h := length_of_unicodeEscape? _h; simp only [List.length_cons]; omega)
    | (simp only [List.length_cons]; omega)

/-! ### The sequence of tokens -/

/-- The token that a text begins with, and what follows it. -/
def nextToken? (s : List Char) : Option (Token × List Char) :=
  match s with
  | [] => none
  | '[' :: rest => some (.openArray, rest)
  | ']' :: rest => some (.closeArray, rest)
  | '\x7b' :: rest => some (.openObject, rest)
  | '\x7d' :: rest => some (.closeObject, rest)
  | ',' :: rest => some (.comma, rest)
  | ':' :: rest => some (.colon, rest)
  | '"' :: rest => (scanString? rest).map fun (text, after) => (.string text, after)
  | 'n' :: 'u' :: 'l' :: 'l' :: rest => some (.scalar (some .null), rest)
  | 't' :: 'r' :: 'u' :: 'e' :: rest => some (.scalar (some (.bool true)), rest)
  | 'f' :: 'a' :: 'l' :: 's' :: 'e' :: rest => some (.scalar (some (.bool false)), rest)
  | _ => (scanNumber? s).map fun (v, after) => (.scalar v, after)

/-- **The tokens of a text.**  A token is taken only if it leaves less to read, which every
token does. -/
def tokens? (s : List Char) : Option (List Token) :=
  match s with
  | [] => some []
  | c :: rest =>
    if isSpace c then tokens? rest
    else
      match nextToken? (c :: rest) with
      | none => none
      | some (token, after) =>
        if _h : after.length < (c :: rest).length then (tokens? after).map (token :: ·)
        else none
termination_by s.length
decreasing_by
  · simp
  · exact _h

end RecordFlow.Json
