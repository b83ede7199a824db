import RecordFlow.Value.Coercion

/-!
# Literals

The right-hand side of a comparison and the branches of a ternary are literals: the
words for null and for the truth values, decimal numerals, quoted texts, and any other
text for itself.

## Main definitions

* `isPlainNumeral` — digits with at most a minus sign and a fraction.
* `unquote?` — a text without its quotes.
* `literal` — the value that a literal stands for.
-/

namespace RecordFlow.Formula

/-- A text without one minus sign at its front. -/
def dropMinus : List Char → List Char
  | '-' :: s => s
  | s => s

/-- **A plain numeral:** an optional minus sign, digits, and optionally a point and
more digits. -/
def isPlainNumeral (digit : Char → Bool) (s : List Char) : Bool :=
  let unsigned := dropMinus s
  !(unsigned.takeWhile digit).isEmpty &&
    match unsigned.dropWhile digit with
    | [] => true
    | '.' :: fraction => !fraction.isEmpty && fraction.all digit
    | _ => false

/-- Whether the character is a quote. -/
def isQuote (c : Char) : Bool :=
  c.toNat == 0x27 || c.toNat == 0x22

/-- **A text without the quotes around it,** when it begins and ends in the same
quote. -/
def unquote? : List Char → Option (List Char)
  | [] => none
  | c :: rest =>
    if isQuote c ∧ rest.getLast? = some c then some rest.dropLast else none

/-- **The value that a literal stands for.** -/
def literal (s : List Char) : Value :=
  let t := Text.trim s
  if t = "null".toList ∨ t = "undefined".toList then .null
  else if t = "true".toList then .bool true
  else if t = "false".toList then .bool false
  else if isPlainNumeral Text.isAsciiDigit t then
    (readNumber? t).elim .null .ofBinary64
  else .text ((unquote? t).getD t)

end RecordFlow.Formula
