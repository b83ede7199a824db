import RecordFlow.Step.Options
import RecordFlow.Text.Case
import RecordFlow.Value.Coercion

/-!
# Steps on the wording of a text

Case, trimming, cutting, padding and slugs.  A step acts on strings and leaves other
values alone; padding alone works on the text of any value but null.

## Main definitions

* `Value.mapText` — a function of texts applied to a string.
* `Wording.capitalize`, `Wording.titleCase` — capital letters.
* `Wording.slug` — the alphanumeric runs of a text, joined.
* `Wording.truncate` — a text cut to a length.
* `Wording.pad` — a text padded to a length.
-/

namespace RecordFlow

/-- A string with its text changed, and any other value as it is. -/
def Value.mapText (f : List Char → List Char) : Value → Value
  | .str s => .text (f s.toList)
  | v => v

/-- The text of an option, or a default. -/
def chars (option : Option String) (default : String) : List Char :=
  (option.getD default).toList

namespace Wording

/-- **A word with a capital:** its first character in upper case and each of the others
in lower case. -/
def capitalize : List Char → List Char
  | [] => []
  | c :: rest => Text.upperChar c ++ Text.lowerEach rest

/-- **A text with every word capitalized.**  Words end at white space, which stays as
it is. -/
def titleCase (s : List Char) : List Char :=
  capitalize (s.takeWhile (!Text.isBlank ·)) ++
    match _h : s.dropWhile (!Text.isBlank ·) with
    | [] => []
    | blank :: rest => blank :: titleCase rest
termination_by s.length
decreasing_by
  have : (s.dropWhile (!Text.isBlank ·)).length ≤ s.length :=
    (List.dropWhile_sublist _).length_le
  rw [_h, List.length_cons] at this
  omega

/-- The maximal runs of characters of a class, in order. -/
def runsOf (p : Char → Bool) (s : List Char) : List (List Char) :=
  match _h : s.dropWhile (!p ·) with
  | [] => []
  | c :: rest => (c :: rest).takeWhile p :: runsOf p (rest.dropWhile p)
termination_by s.length
decreasing_by
  have h₁ : (s.dropWhile (!p ·)).length ≤ s.length := (List.dropWhile_sublist _).length_le
  have h₂ : (rest.dropWhile p).length ≤ rest.length := (List.dropWhile_sublist _).length_le
  rw [_h, List.length_cons] at h₁
  omega

/-- **The slug of a text:** the alphanumeric runs of its lower case, with the separator
between neighbours. -/
def slug (separator s : List Char) : List Char :=
  Text.joinWith separator (runsOf Text.isAlphanumeric (Text.lower s))

/-- **A text cut to a length.**  A text that is too long keeps as many characters as
leave room for the suffix, and gets the whole suffix. -/
def truncate (maxLength : Nat) (suffix s : List Char) : List Char :=
  if s.length ≤ maxLength then s else s.take (maxLength - suffix.length) ++ suffix

/-- The longest text that padding makes. -/
def maxPadLength : Nat := 2 ^ 20

/-- The first characters of a nonempty text repeated for ever. -/
def cycled (pad : List Char) (count : Nat) : List Char :=
  (List.replicate (count / pad.length + 1) pad).flatten.take count

/-- **A text padded to a length** on one side.  A text that is long enough stays as it
is, and so does every text if the padding is empty or the length beyond the longest. -/
def pad (length : Nat) (filler : List Char) (side : PadSide) (s : List Char) : List Char :=
  if length ≤ s.length ∨ filler = [] ∨ maxPadLength < length then s
  else
    let padding := cycled filler (length - s.length)
    match side with
    | .start => padding ++ s
    | .finish => s ++ padding

end Wording

namespace Step

/-- White space around a string is dropped. -/
def trim : Value → Value :=
  Value.mapText Text.trim

/-- A string in lower case. -/
def lowercase : Value → Value :=
  Value.mapText Text.lower

/-- A string in upper case. -/
def uppercase : Value → Value :=
  Value.mapText Text.upper

/-- The slug of a string. -/
def slugify (o : Options) : Value → Value :=
  Value.mapText (Wording.slug (chars o.separator "-"))

/-- A string cut to a length, if one is set. -/
def truncate (o : Options) (v : Value) : Value :=
  match o.maxLength with
  | none => v
  | some n => v.mapText (Wording.truncate n (chars o.suffix ""))

/-- The text of a value padded to a length; null stays null. -/
def pad (o : Options) (v : Value) : Value :=
  match v with
  | .null => .null
  | v =>
    match o.padLength with
    | none => .text v.toText
    | some n => .text (Wording.pad n (chars o.padChar " ") (o.padSide.getD .start) v.toText)

/-- Every word of a string capitalized. -/
def titleCase : Value → Value :=
  Value.mapText Wording.titleCase

/-- The first character of a string in upper case, the rest in lower case. -/
def sentenceCase : Value → Value :=
  Value.mapText Wording.capitalize

end Step

end RecordFlow
