import RecordFlow.Value.Coercion

/-!
# Templates

A template is a text with tokens `${path}`: a dollar sign and a path in braces.
Each token is replaced by the text of what stands at its path; the word `value` stands
for the value at hand.  What a token is replaced by is not looked at again.

## Main definitions

* `expandTokens` — a text with every token replaced by what a function says.
* `interpolate` — a template filled in from a record and a value.
-/

namespace RecordFlow.Formula

/-- The text with each token replaced by what `expand` makes of the text between its
braces.  A token that is never closed is no token. -/
def expandTokens (expand : List Char → List Char) (s : List Char) : List Char :=
  match _opened : Text.cutAt? ['$', '{'] s with
  | none => s
  | some (before, rest) =>
    match _closed : Text.cutAt? ['}'] rest with
    | none => s
    | some (path, after) => before ++ expand path ++ expandTokens expand after
termination_by s.length
decreasing_by
  have h₁ := Text.length_of_cutAt? _opened
  have h₂ := Text.length_of_cutAt? _closed
  simp only [List.length_cons, List.length_nil] at h₁ h₂
  omega

/-- **A template filled in** from a record and the value at hand. -/
def interpolate (template : List Char) (record value : Value) : List Char :=
  expandTokens (fun token =>
    let path := Text.trim token
    if path = "value".toList then value.display
    else (record.resolve (String.ofList path)).display) template

end RecordFlow.Formula
