import RecordFlow.Text.Blank
import RecordFlow.Text.Case
import RecordFlow.Text.Search
import RecordFlow.Value.Basic

/-!
# Redaction

Records are written into logs without what is private in them.  In a text, mail
addresses are replaced first, and then what follows a label of a secret.  In data,
everything under a sensitive key is replaced, and all other strings are redacted.

    a@b.org            becomes  ***@***
    token: 'abcdef'    becomes  token=***

A label is taken in any case of its letters.  Between it and the secret stand equals
signs, colons and white space, and the secret is at least three characters long.

## Main definitions

* `redactMail` — a text without mail addresses.
* `redactSecrets` — a text without labelled secrets.
* `redactText` — both, one after the other.
* `isSensitiveKey`, `redactValue` — the same for data.
-/

namespace RecordFlow.Log

/-! ### Mail addresses -/

/-- Whether the character may stand before the sign of a mail address. -/
def isMailboxChar (c : Char) : Bool :=
  Text.isAsciiLetter c || Text.isAsciiDigit c ||
    c == '.' || c == '_' || c == '%' || c == '+' || c == '-'

/-- Whether the character may stand after the sign of a mail address. -/
def isDomainChar (c : Char) : Bool :=
  Text.isAsciiLetter c || Text.isAsciiDigit c || c == '.' || c == '-'

/-- What follows a top-level domain, which is a row of at least two letters. -/
def afterTopLevel? (s : List Char) : Option (List Char) :=
  if 2 ≤ (s.takeWhile Text.isAsciiLetter).length then
    some (s.dropWhile Text.isAsciiLetter)
  else none

/-- What follows the longest rest of a domain, some characters of which have been
read. -/
def afterDomainRest? : List Char → Option (List Char)
  | [] => none
  | c :: s =>
    if isDomainChar c then
      (afterDomainRest? s).or (if c = '.' then afterTopLevel? s else none)
    else none

/-- **What follows the longest domain** that a text begins with: at least one character,
a point and a top-level domain. -/
def afterDomain? : List Char → Option (List Char)
  | [] => none
  | c :: s => if isDomainChar c then afterDomainRest? s else none

/-- A top-level domain takes something. -/
theorem length_of_afterTopLevel? {s r : List Char} (h : afterTopLevel? s = some r) :
    r.length ≤ s.length := by
  simp only [afterTopLevel?] at h
  split at h
  · simp only [Option.some.injEq] at h
    subst h
    exact (List.dropWhile_sublist _).length_le
  · simp at h

/-- The rest of a domain takes something. -/
theorem length_of_afterDomainRest? {s r : List Char} (h : afterDomainRest? s = some r) :
    r.length < s.length := by
  induction s with
  | nil => simp [afterDomainRest?] at h
  | cons c s ih =>
    simp only [afterDomainRest?] at h
    split at h
    · rw [Option.or_eq_some_iff] at h
      rcases h with h | ⟨_, h⟩
      · have := ih h
        simp only [List.length_cons]
        omega
      · split at h
        · have := length_of_afterTopLevel? h
          simp only [List.length_cons]
          omega
        · simp at h
    · simp at h

/-- A domain takes something. -/
theorem length_of_afterDomain? {s r : List Char} (h : afterDomain? s = some r) :
    r.length < s.length := by
  cases s with
  | nil => simp [afterDomain?] at h
  | cons c s =>
    simp only [afterDomain?] at h
    split at h
    · have := length_of_afterDomainRest? h
      simp only [List.length_cons]
      omega
    · simp at h

/-- What stands in place of a mail address. -/
def mailMask : List Char :=
  ['*', '*', '*', '@', '*', '*', '*']

/-- The text without mail addresses, given whether something that may stand before the
sign has just been read; that part is held back in `held`, last character first, until
it is known whether it begins an address. -/
def redactMailFrom (held s : List Char) : List Char :=
  match s with
  | [] => held.reverse
  | c :: rest =>
    if isMailboxChar c then redactMailFrom (c :: held) rest
    else if c = '@' ∧ held ≠ [] then
      match _h : afterDomain? rest with
      | some after => mailMask ++ redactMailFrom [] after
      | none => held.reverse ++ c :: redactMailFrom [] rest
    else held.reverse ++ c :: redactMailFrom [] rest
termination_by s.length
decreasing_by
  · simp
  · have := length_of_afterDomain? _h
    simp only [List.length_cons]
    omega
  · simp
  · simp

/-- **The text without mail addresses.** -/
def redactMail (s : List Char) : List Char :=
  redactMailFrom [] s

/-! ### Secrets -/

/-- The labels of secrets. -/
def secretLabels : List (List Char) :=
  ["apikey", "api_key", "api-key", "token", "password", "secret"].map String.toList

/-- The letter that a character is, whatever its case; the long s and the sign for
kelvin count as letters. -/
def foldedLetter (c : Char) : Char :=
  if 65 ≤ c.toNat ∧ c.toNat ≤ 90 then Char.ofNat (c.toNat + 32)
  else if c.toNat = 0x17F then 's'
  else if c.toNat = 0x212A then 'k'
  else c

/-- A label at the beginning of a text, as the text spells it, and what follows. -/
def splitLabel? (s : List Char) : Option (List Char × List Char) :=
  secretLabels.findSome? fun label =>
    if (s.take label.length).map foldedLetter = label then
      some (s.take label.length, s.drop label.length)
    else none

/-- Whether the character may stand between a label and its secret. -/
def isSecretSeparator (c : Char) : Bool :=
  c == '=' || c == ':' || Text.isBlank c

/-- Whether the character is a quote. -/
def isQuoteMark (c : Char) : Bool :=
  c.toNat == 0x27 || c == '"'

/-- Whether the character may stand in a secret. -/
def isSecretChar (c : Char) : Bool :=
  !Text.isBlank c && !isQuoteMark c

/-- A text without the one quote that it may begin with. -/
def dropQuoteMark : List Char → List Char
  | [] => []
  | c :: s => if isQuoteMark c then s else c :: s

/-- What follows a secret and the quote after it. -/
def afterSecret? (s : List Char) : Option (List Char) :=
  if 3 ≤ (s.takeWhile isSecretChar).length then
    some (dropQuoteMark (s.dropWhile isSecretChar))
  else none

/-- What follows a secret, where one separator has been read.  As many separators as
possible are passed over; the last of them belong to the secret where it would be too
short without them. -/
def afterSeparators? : List Char → Option (List Char)
  | [] => none
  | c :: s =>
    if isSecretSeparator c then (afterSeparators? s).or (afterSecret? (c :: s))
    else afterSecret? (dropQuoteMark (c :: s))

/-- **What follows the separators and the secret** that a text begins with. -/
def afterLabelled? : List Char → Option (List Char)
  | [] => none
  | c :: s => if isSecretSeparator c then afterSeparators? s else none

/-- A quote may be dropped, and nothing else. -/
theorem length_dropQuoteMark_le (s : List Char) : (dropQuoteMark s).length ≤ s.length := by
  cases s with
  | nil => simp [dropQuoteMark]
  | cons c s =>
    simp only [dropQuoteMark]
    split <;> simp

/-- A secret is taken off. -/
theorem length_of_afterSecret? {s r : List Char} (h : afterSecret? s = some r) :
    r.length ≤ s.length := by
  simp only [afterSecret?] at h
  split at h
  · simp only [Option.some.injEq] at h
    subst h
    exact Nat.le_trans (length_dropQuoteMark_le _) (List.dropWhile_sublist _).length_le
  · simp at h

/-- Separators and a secret are taken off. -/
theorem length_of_afterSeparators? {s r : List Char} (h : afterSeparators? s = some r) :
    r.length ≤ s.length := by
  induction s with
  | nil => simp [afterSeparators?] at h
  | cons c s ih =>
    simp only [afterSeparators?] at h
    split at h
    · rw [Option.or_eq_some_iff] at h
      rcases h with h | ⟨_, h⟩
      · have := ih h
        simp only [List.length_cons]
        omega
      · exact length_of_afterSecret? h
    · exact Nat.le_trans (length_of_afterSecret? h) (length_dropQuoteMark_le _)

/-- Something is taken off. -/
theorem length_of_afterLabelled? {s r : List Char} (h : afterLabelled? s = some r) :
    r.length < s.length := by
  cases s with
  | nil => simp [afterLabelled?] at h
  | cons c s =>
    simp only [afterLabelled?] at h
    split at h
    · have := length_of_afterSeparators? h
      simp only [List.length_cons]
      omega
    · simp at h

/-- What a label and the text after it have in common with the text before. -/
theorem length_of_splitLabel? {s label rest : List Char}
    (h : splitLabel? s = some (label, rest)) : rest.length ≤ s.length := by
  simp only [splitLabel?] at h
  obtain ⟨l, _, hl⟩ := List.exists_of_findSome?_eq_some h
  split at hl
  · simp only [Option.some.injEq, Prod.mk.injEq] at hl
    obtain ⟨_, rfl⟩ := hl
    simp
  · simp at hl

/-- A labelled secret at the beginning of a text: the label, and what follows the
secret. -/
def splitSecret? (s : List Char) : Option (List Char × List Char) :=
  (splitLabel? s).bind fun (label, rest) => (afterLabelled? rest).map (label, ·)

/-- A labelled secret takes something. -/
theorem length_of_splitSecret? {s label rest : List Char}
    (h : splitSecret? s = some (label, rest)) : rest.length < s.length := by
  simp only [splitSecret?, Option.bind_eq_some_iff, Option.map_eq_some_iff,
    Prod.mk.injEq] at h
  obtain ⟨⟨l, r⟩, hl, after, ha, rfl, rfl⟩ := h
  exact Nat.lt_of_lt_of_le (length_of_afterLabelled? ha) (length_of_splitLabel? hl)

/-- What stands in place of a secret. -/
def secretMask : List Char :=
  ['=', '*', '*', '*']

/-- **The text without labelled secrets.** -/
def redactSecrets (s : List Char) : List Char :=
  match s with
  | [] => []
  | c :: rest =>
    match _h : splitSecret? (c :: rest) with
    | some (label, after) => label ++ secretMask ++ redactSecrets after
    | none => c :: redactSecrets rest
termination_by s.length
decreasing_by
  · exact length_of_splitSecret? _h
  · simp

/-- **The text without mail addresses and labelled secrets.** -/
def redactText (s : List Char) : List Char :=
  redactSecrets (redactMail s)

/-! ### Data -/

/-- What makes a key sensitive when it occurs in it, in any case. -/
def sensitiveWords : List (List Char) :=
  ["password", "passwd", "secret", "token", "apikey", "api_key", "credential"].map
    String.toList

/-- **Whether a key is sensitive.** -/
def isSensitiveKey (key : String) : Bool :=
  sensitiveWords.any (Text.contains (Text.lower key.toList))

/-- What stands in place of everything under a sensitive key. -/
def hidden : Value :=
  .str "***"

mutual

/-- **Data without what is private.** -/
def redactValue : Value → Value
  | .str s => .text (redactText s.toList)
  | .arr items => .arr (redactItems items)
  | .obj fields => .obj (redactFields fields)
  | v => v

/-- The items of an array, each redacted. -/
def redactItems : List Value → List Value
  | [] => []
  | item :: rest => redactValue item :: redactItems rest

/-- The fields of an object, each redacted or hidden. -/
def redactFields : List (String × Value) → List (String × Value)
  | [] => []
  | (key, value) :: rest =>
    (key, if isSensitiveKey key then hidden else redactValue value) :: redactFields rest

end

end RecordFlow.Log
