import RecordFlow.Step.Wording

/-!
# Steps on markup

Tags are taken out of a text, or the characters that markup gives a meaning are
written as entities.

## Main definitions

* `Markup.stripTags` — a text without its tags.
* `Markup.escape` — a text with the five special characters as entities.
-/

namespace RecordFlow

namespace Markup

/-- **A text without its tags.**  A tag goes from an opening bracket to the next closing
one, whatever stands between them. -/
def stripTags (s : List Char) : List Char :=
  match _opened : Text.cutAt? ['<'] s with
  | none => s
  | some (before, rest) =>
    match _closed : Text.cutAt? ['>'] rest with
    | none => s
    | some (_, after) => before ++ stripTags after
termination_by s.length
decreasing_by
  have h₁ := Text.length_of_cutAt? _opened
  have h₂ := Text.length_of_cutAt? _closed
  simp only [List.length_cons, List.length_nil] at h₁ h₂
  omega

/-- The entity of a special character, and any other character by itself. -/
def entity (c : Char) : List Char :=
  if c = '&' then "&amp;".toList
  else if c = '<' then "&lt;".toList
  else if c = '>' then "&gt;".toList
  else if c = '"' then "&quot;".toList
  else if c.toNat = 0x27 then "&#39;".toList
  else [c]

/-- **A text with its special characters as entities.** -/
def escape (s : List Char) : List Char :=
  s.flatMap entity

end Markup

namespace Step

/-- A string without its tags. -/
def stripHtml : Value → Value :=
  Value.mapText Markup.stripTags

/-- A string with its special characters as entities. -/
def escapeHtml : Value → Value :=
  Value.mapText Markup.escape

end Step

end RecordFlow
