import RecordFlow.Proofs.Json.Numbers

/-!
# Tokens of written JSON

What is written for a string is read as one token, whatever characters are in it
(`nextToken?_quoted`): each of them is written so that it is scanned as itself, and none ends
the string (`scanString?_escaped`).  What is written for a number is read as one token too, or
it is no token at all (`nextToken?_numberText`).

## Main definitions

* `scannedNumber?` — what the text of a number is scanned as.
-/

namespace RecordFlow.Json

open Text Numeral

variable {r s : List Char} {c : Char} {sp : Spelling} {n : ℤ}

/-! ### Marks -/

@[simp] theorem nextToken?_openArray (s : List Char) :
    nextToken? ('[' :: s) = some (.openArray, s) := rfl

@[simp] theorem nextToken?_closeArray (s : List Char) :
    nextToken? (']' :: s) = some (.closeArray, s) := rfl

@[simp] theorem nextToken?_openObject (s : List Char) :
    nextToken? ('\x7b' :: s) = some (.openObject, s) := rfl

@[simp] theorem nextToken?_closeObject (s : List Char) :
    nextToken? ('\x7d' :: s) = some (.closeObject, s) := rfl

@[simp] theorem nextToken?_comma (s : List Char) :
    nextToken? (',' :: s) = some (.comma, s) := rfl

@[simp] theorem nextToken?_colon (s : List Char) :
    nextToken? (':' :: s) = some (.colon, s) := rfl

/-! ### Strings -/

theorem hexValue?_hexChar {k : ℕ} (hk : k < 16) : hexValue? (hexChar k) = some k := by
  have hall : ∀ k < 16, hexValue? (hexChar k) = some k := by decide
  exact hall k hk

/-- A code unit that is no half of a pair is a character, whatever follows it. -/
theorem unicodeEscape?_of_hexUnit? {a b d e : Char} {k : ℕ} (h : hexUnit? a b d e = some k)
    (hk : k < 0xD800) (s : List Char) :
    unicodeEscape? (a :: b :: d :: e :: s) = some (some (Char.ofNat k), s) := by
  have hhigh : isHighSurrogate k = false := by simp [isHighSurrogate]; omega
  have hlow : isLowSurrogate k = false := by simp [isLowSurrogate]; omega
  rw [unicodeEscape?, h, Option.map_some, hhigh, hlow]
  rfl

/-- A control character in hexadecimal digits. -/
theorem unicodeEscape?_hexChar (hc : c.toNat < 32) (s : List Char) :
    unicodeEscape? ('0' :: '0' :: hexChar (c.toNat / 16) :: hexChar (c.toNat % 16) :: s) =
      some (some c, s) := by
  have hunit : hexUnit? '0' '0' (hexChar (c.toNat / 16)) (hexChar (c.toNat % 16)) =
      some c.toNat := by
    have hzero : hexValue? '0' = some 0 := rfl
    simp only [hexUnit?, hzero, hexValue?_hexChar (show c.toNat / 16 < 16 by omega),
      hexValue?_hexChar (show c.toNat % 16 < 16 by omega), Option.bind_eq_bind, Option.bind_some]
    show some _ = some _
    congr 1
    omega
  rw [unicodeEscape?_of_hexUnit? hunit (by omega), Char.ofNat_toNat]

/-- A letter after a backslash. -/
theorem scanString?_simple {e : Char} (h : simpleEscape? e = some c) (s : List Char) :
    scanString? ('\\' :: e :: s) =
      (scanString? s).map fun (text, after) => (put (some c) text, after) := by
  rw [scanString?]
  · rw [h, Option.bind_some]
  · rintro rfl
    cases h

/-- A code unit after a backslash. -/
theorem scanString?_unicode (h : unicodeEscape? s = some (some c, r)) :
    scanString? ('\\' :: 'u' :: s) =
      (scanString? r).map fun (text, after) => (put (some c) text, after) := by
  rw [scanString?]
  split
  · next hnone =>
    rw [h] at hnone
    cases hnone
  · next hsome =>
    rw [h] at hsome
    cases hsome
    rfl

/-- A character that stands for itself. -/
theorem scanString?_plain (hquote : c ≠ '"') (hbackslash : c ≠ '\\') (hc : 32 ≤ c.toNat)
    (s : List Char) :
    scanString? (c :: s) =
      (scanString? s).map fun (text, after) => (put (some c) text, after) := by
  rw [scanString?]
  · exact if_neg (by omega)
  · rintro rfl
    exact hquote rfl
  · rintro _ rfl
    exact absurd rfl hbackslash
  · rintro _ _ rfl
    exact absurd rfl hbackslash
  · rintro rfl
    exact absurd rfl hbackslash

/-- **A character is scanned as it is written.** -/
theorem scanString?_escaped (c : Char) (s : List Char) :
    scanString? (escaped c ++ s) =
      (scanString? s).map fun (text, after) => (put (some c) text, after) := by
  have hletter : ∀ {e d : Char}, c.toNat = d.toNat → simpleEscape? e = some d →
      scanString? ('\\' :: e :: s) =
        (scanString? s).map fun (text, after) => (put (some c) text, after) := by
    intro e d h he
    exact scanString?_simple (he.trans (congrArg some (Char.toNat_inj.1 h.symm))) s
  unfold escaped
  split
  · next h => exact hletter (congrArg Char.toNat h) rfl
  split
  · next h => exact hletter (congrArg Char.toNat h) rfl
  split
  · next h => exact hletter (congrArg Char.toNat h) rfl
  split
  · next h => exact hletter (congrArg Char.toNat h) rfl
  split
  · next h => exact hletter (congrArg Char.toNat h) rfl
  split
  · next h => exact hletter (d := Char.ofNat 8) h rfl
  split
  · next h => exact hletter (d := Char.ofNat 12) h rfl
  split
  · next h => exact scanString?_unicode (unicodeEscape?_hexChar h s)
  · exact scanString?_plain ‹_› ‹_› (by omega) s

/-- **The characters of a string are scanned up to the closing quote.** -/
theorem scanString?_quoted (text rest : List Char) :
    scanString? (text.flatMap escaped ++ '"' :: rest) = some (some text, rest) := by
  induction text with
  | nil => rw [List.flatMap_nil, List.nil_append, scanString?]
  | cons c text ih =>
    rw [List.flatMap_cons, List.append_assoc, scanString?_escaped, ih]
    rfl

/-- **A string is one token.** -/
theorem nextToken?_quoted (text rest : List Char) :
    nextToken? (quoted text ++ rest) = some (.string (some text), rest) := by
  have hsplit : quoted text ++ rest = '"' :: (text.flatMap escaped ++ '"' :: rest) := by
    simp [quoted]
  rw [hsplit, nextToken?, scanString?_quoted, Option.map_some]

/-! ### Numbers -/

/-- What begins with a digit or a minus sign is a number, if it is a token. -/
theorem nextToken?_cons (hc : isAsciiDigit c = true ∨ c = '-') (s : List Char) :
    nextToken? (c :: s) = (scanNumber? (c :: s)).map fun (v, after) => (.scalar v, after) := by
  have hmark : ∀ d ∈ ['[', ']', '\x7b', '\x7d', ',', ':', '"', 'n', 't', 'f'], c ≠ d := by
    rintro d hd rfl
    have hall : ∀ d ∈ ['[', ']', '\x7b', '\x7d', ',', ':', '"', 'n', 't', 'f'],
        ¬ (isAsciiDigit d = true ∨ d = '-') := by simp [isAsciiDigit]
    exact hall c hd hc
  rw [nextToken?]
  · exact List.cons_ne_nil c s
  all_goals
    intro rest heq
    exact hmark _ (by decide) (List.cons.inj heq).1

/-- A strict spelling begins with a digit or a minus sign. -/
theorem exists_cons_spelling (hin : sp.InDigits isAsciiDigit) (hstrict : sp.IsStrict) :
    ∃ c u, sp.text = c :: u ∧ (isAsciiDigit c = true ∨ c = '-') := by
  obtain ⟨sg, whole, fraction, power⟩ := sp
  obtain ⟨c, digits, rfl⟩ := List.exists_cons_of_ne_nil hstrict.whole
  rcases sg with _ | (_ | _)
  · exact ⟨c, _, rfl, Or.inl (hin.whole c List.mem_cons_self)⟩
  · exact absurd rfl hstrict.sign
  · exact ⟨'-', _, rfl, Or.inr rfl⟩

/-- A strict spelling is a number, if it is a token. -/
theorem nextToken?_spelling (hin : sp.InDigits isAsciiDigit) (hstrict : sp.IsStrict)
    (r : List Char) :
    nextToken? (sp.text ++ r) = (scanNumber? (sp.text ++ r)).map fun (v, after) =>
      (.scalar v, after) := by
  obtain ⟨c, u, htext, hc⟩ := exists_cons_spelling hin hstrict
  rw [htext]
  exact nextToken?_cons hc (u ++ r)

/-- What is written for a number is the word for null, or a strict spelling. -/
theorem numberText_cases (number : Number) :
    numberText number = "null".toList ∨
      ∃ sp : Spelling, sp.InDigits isAsciiDigit ∧ sp.IsStrict ∧ numberText number = sp.text := by
  rcases number with n | (_ | _ | ⟨negative, m, e, h⟩)
  case int => exact Or.inr ⟨.ofInt n, inDigits_ofInt n, isStrict_ofInt n, (text_ofInt n).symm⟩
  case float.finite => exact Or.inr (exists_spelling_render numberLayout negative m e)
  all_goals exact Or.inl rfl

theorem exists_cons_numberText (number : Number) :
    ∃ c u, numberText number = c :: u ∧ isSpace c = false := by
  rcases numberText_cases number with hnull | ⟨sp, hin, hstrict, htext⟩
  · exact ⟨'n', _, hnull, rfl⟩
  · obtain ⟨c, u, hcons, hc⟩ := exists_cons_spelling hin hstrict
    refine ⟨c, u, htext.trans hcons, Bool.eq_false_iff.2 fun hspace => ?_⟩
    simp only [isSpace, Bool.or_eq_true, beq_iff_eq] at hspace
    rcases hspace with ((rfl | rfl) | rfl) | rfl <;> exact absurd hc (by decide)

/-- **What the text of a number is scanned as,** if it is a token at all.  What is written for
infinity is the word for null, and what is written for a finite number may be read as a
neighbour of it: so this is told by the reader, and not by the number. -/
def scannedNumber? (number : Number) : Option (Option Value) :=
  (nextToken? (numberText number)).bind fun (token, _) =>
    match token with
    | .scalar v => some v
    | _ => none

theorem scannedNumber?_eq {number : Number} {scanned : Option (Option Value)}
    (h : nextToken? (numberText number) = scanned.map fun v => (.scalar v, [])) :
    scannedNumber? number = scanned := by
  rw [scannedNumber?, h]
  cases scanned <;> rfl

/-- **A number is one token, or none,** whatever follows it. -/
theorem nextToken?_numberText (number : Number) (hr : Ends isAsciiDigit r) :
    nextToken? (numberText number ++ r) =
      (scannedNumber? number).map fun v => (.scalar v, r) := by
  -- it is enough that what is scanned does not depend on the rest
  obtain ⟨scanned, hread⟩ : ∃ scanned : Option (Option Value), ∀ r, Ends isAsciiDigit r →
      nextToken? (numberText number ++ r) = scanned.map fun v => (.scalar v, r) := by
    rcases numberText_cases number with hnull | ⟨sp, hin, hstrict, htext⟩
    · rw [hnull]
      exact ⟨some (some .null), fun r _ => rfl⟩
    · rw [htext]
      refine ⟨if sp.whole.head? == some '0' && sp.whole.length != 1 then none
        else some (numeralValue? sp.numeral (sp.fraction.isNone && sp.power.isNone)),
        fun r hr => ?_⟩
      rw [nextToken?_spelling hin hstrict, scanNumber?_text hin hstrict hr]
      split <;> rfl
  have hnil := hread [] ends_nil
  rw [List.append_nil] at hnil
  rw [scannedNumber?_eq hnil, hread r hr]

/-- **An integer of 64 bits is scanned as it was.** -/
theorem scannedNumber?_int (hn : Formula.IsMachineInt n) :
    scannedNumber? (.int n) = some (some (.int n)) := by
  have hscan := scanNumber?_intText hn ends_nil
  rw [← text_ofInt] at hscan
  refine scannedNumber?_eq ?_
  show nextToken? (intText n) = _
  rw [← text_ofInt, ← List.append_nil (Spelling.text _),
    nextToken?_spelling (inDigits_ofInt n) (isStrict_ofInt n), hscan]
  rfl

end RecordFlow.Json
