import RecordFlow.Regex.CharSet

/-!
# Regular expressions

The tree of a regular expression, after its flags have been applied to its parts.

## Main definitions

* `Assertion` — a condition on a place in a text.
* `Pattern` — a regular expression.
-/

namespace RecordFlow.Regex

/-- **A condition on a place in a text.** -/
inductive Assertion where
  | textStart
  | textEnd
  /-- At the start of a line; where `crlf` is set, lines may also end in a carriage
  return. -/
  | lineStart (crlf : Bool)
  | lineEnd (crlf : Bool)
  /-- Between a word character and another one, or not. -/
  | wordBoundary (unicode : Bool)
  | notWordBoundary (unicode : Bool)
  | wordStart (unicode : Bool)
  | wordEnd (unicode : Bool)
  | wordStartHalf (unicode : Bool)
  | wordEndHalf (unicode : Bool)
deriving DecidableEq

/-- **A regular expression.** -/
inductive Pattern where
  /-- Nothing, at any place. -/
  | empty
  /-- One character of a set. -/
  | set (s : CharSet)
  /-- Nothing, at a place of some kind. -/
  | assertion (a : Assertion)
  /-- One after the other. -/
  | seq (first second : Pattern)
  /-- The first, or else the second. -/
  | either (first second : Pattern)
  /-- At least `least` times and at most `most` times, as often as possible if `greedy`
  is set and as seldom as possible if not. -/
  | repeated (body : Pattern) (least : Nat) (most : Option Nat) (greedy : Bool)
  /-- The same, with the place of what it matches kept under a number. -/
  | group (index : Nat) (body : Pattern)

namespace Pattern

/-- Patterns one after the other. -/
def sequence : List Pattern → Pattern
  | [] => empty
  | [p] => p
  | p :: rest => seq p (sequence rest)

/-- Patterns in the order in which they are tried. -/
def choice : List Pattern → Pattern
  | [] => empty
  | [p] => p
  | p :: rest => either p (choice rest)

/-- Whether the pattern may match without taking a character. -/
def mayBeEmpty : Pattern → Bool
  | empty => true
  | set _ => false
  | assertion _ => true
  | seq p q => p.mayBeEmpty && q.mayBeEmpty
  | either p q => p.mayBeEmpty || q.mayBeEmpty
  | repeated p least _ _ => least == 0 || p.mayBeEmpty
  | group _ p => p.mayBeEmpty

end Pattern

end RecordFlow.Regex
