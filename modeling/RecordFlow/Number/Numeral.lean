import RecordFlow.Number.Binary64
import RecordFlow.Text.CharClass

/-!
# Decimal numerals

A numeral is an optional sign, digits with at most one point among them, and an
optional power of ten:

    [+-] ( digits [. [digits]] | . digits ) [ (e|E) [+-] digits ]

One scanner serves every reader of numbers.  It takes the class of digits as a
parameter, because some readers find numerals in the digits of any script; a numeral
has a value only if all its digits are ASCII.

## Main definitions

* `Numeral` — the parts of a numeral.
* `Numeral.scan?` — the longest numeral that a text begins with, and what follows.
* `Numeral.value?` — the floating-point number nearest to a numeral.
* `readNumber?` — the number that a whole text spells.
-/

namespace RecordFlow

/-- The number that a row of decimal digits spells. -/
def digitsValue (digits : List Char) : Nat :=
  digits.foldl (fun n c => 10 * n + (c.toNat - 48)) 0

/-- How many decimal digits a number has; zero has one. -/
def digitCount (n : Nat) : Nat :=
  (Nat.toDigits 10 n).length

namespace Binary64

/-- **The number nearest to `± digits · 10 ^ exponent`.**  Powers beyond the range are
settled without being computed. -/
def ofDecimal (negative : Bool) (digits : Nat) (exponent : Int) : Binary64 :=
  if digits = 0 then zero negative
  else if 400 < (digitCount digits : Int) + exponent then infinite negative
  else if (digitCount digits : Int) + exponent < -400 then zero negative
  else if 0 ≤ exponent then ofRatio negative (digits * 10 ^ exponent.toNat) 1
  else ofRatio negative digits (10 ^ (-exponent).toNat)

end Binary64

/-- **The parts of a numeral.** -/
structure Numeral where
  /-- Whether it carries a minus sign. -/
  negative : Bool
  /-- The digits before the point. -/
  whole : List Char
  /-- The digits after the point. -/
  fraction : List Char
  /-- The sign (true for minus) and the digits of the power of ten. -/
  power : Option (Bool × List Char)

namespace Numeral

/-- A sign, if there is one, and the rest. -/
def sign : List Char → Bool × List Char
  | '-' :: s => (true, s)
  | '+' :: s => (false, s)
  | s => (false, s)

/-- A power of ten, if a complete one follows, and the rest. -/
def scanPower (digit : Char → Bool) (s : List Char) :
    Option (Bool × List Char) × List Char :=
  match s with
  | c :: rest =>
    if c = 'e' ∨ c = 'E' then
      let (negative, afterSign) := sign rest
      match afterSign.takeWhile digit, afterSign.dropWhile digit with
      | [], _ => (none, s)
      | digits, after => (some (negative, digits), after)
    else (none, s)
  | [] => (none, [])

/-- **The longest numeral that the text begins with,** and what follows it. -/
def scan? (digit : Char → Bool) (s : List Char) : Option (Numeral × List Char) :=
  let (negative, unsigned) := sign s
  match unsigned.takeWhile digit, unsigned.dropWhile digit with
  | [], '.' :: rest =>
    match rest.takeWhile digit with
    | [] => none
    | fraction =>
      let (power, final) := scanPower digit (rest.dropWhile digit)
      some (⟨negative, [], fraction, power⟩, final)
  | [], _ => none
  | whole, '.' :: rest =>
    let (power, final) := scanPower digit (rest.dropWhile digit)
    some (⟨negative, whole, rest.takeWhile digit, power⟩, final)
  | whole, after =>
    let (power, final) := scanPower digit after
    some (⟨negative, whole, [], power⟩, final)

/-- The first numeral that occurs in the text. -/
def find? (digit : Char → Bool) : List Char → Option Numeral
  | [] => none
  | c :: s =>
    match scan? digit (c :: s) with
    | some (n, _) => some n
    | none => find? digit s

/-- Whether all digits are ASCII. -/
def isAscii (n : Numeral) : Bool :=
  n.whole.all Text.isAsciiDigit && n.fraction.all Text.isAsciiDigit &&
    (n.power.map (·.2.all Text.isAsciiDigit)).getD true

/-- The power of ten that scales the row of all digits. -/
def exponent (n : Numeral) : Int :=
  let written : Int :=
    match n.power with
    | none => 0
    | some (negative, digits) =>
      if negative then -(digitsValue digits : Int) else digitsValue digits
  written - n.fraction.length

/-- The number nearest to a numeral in ASCII digits. -/
def nearest (n : Numeral) : Binary64 :=
  .ofDecimal n.negative (digitsValue (n.whole ++ n.fraction)) n.exponent

/-- **The value of a numeral,** which only one in ASCII digits has. -/
def value? (n : Numeral) : Option Binary64 :=
  if n.isAscii then some n.nearest else none

end Numeral

/-- **The number that a whole text spells.** -/
def readNumber? (s : List Char) : Option Binary64 :=
  match Numeral.scan? Text.isAsciiDigit s with
  | some (n, []) => n.value?
  | _ => none

/-- The natural number that a nonempty row of ASCII digits spells. -/
def readNat? (s : List Char) : Option Nat :=
  if !s.isEmpty && s.all Text.isAsciiDigit then some (digitsValue s) else none

/-- The natural number that a text spells, with at most one plus sign before it. -/
def readCount? : List Char → Option Nat
  | '+' :: s => readNat? s
  | s => readNat? s

/-- The integer that a text spells, with at most one sign before it. -/
def readInt? : List Char → Option Int
  | '-' :: s => (readNat? s).map fun n => -(n : Int)
  | s => (readCount? s).map fun n => (n : Int)

end RecordFlow
