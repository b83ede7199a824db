import RecordFlow.Number.Numeral
import RecordFlow.Proofs.Text.Scanning

/-!
# How numerals are spelled

A numeral is a sign, digits with at most one point among them, and a power of ten
(`Numeral.Spelling`).  The scanner reads exactly what is spelled like this: it reads a spelled
numeral to its end, if the text does not go on with a digit, a point or the mark of a power
(`scan?_text`), and whatever it reads was spelled (`exists_spelling_of_scan?`).

Digits are a parameter of the scanner, and so they are here.  A numeral that is spelled in one
class of digits is spelled in every larger one (`Spelling.InDigits.mono`), so that readers with
different digits agree on it.

## Main definitions

* `Numeral.Spelling` — the parts of the text of a numeral, with `text` and `numeral`.
* `Numeral.Spelling.InDigits` — all digits of a spelling are in a class, and there is one.
* `Numeral.Ends` — a text does not go on with a numeral.
* `Numeral.Spells` — the number that a text spells, which `readNumber?` reads
  (`readNumber?_eq_some_iff`).
-/

namespace RecordFlow

open Text

namespace Numeral

variable {digit wider : Char → Bool} {c : Char} {r s t u : List Char}

/-- **The text of a power of ten:** its mark, perhaps a sign, and digits. -/
structure PowerSpelling where
  /-- The letter e. -/
  mark : Char
  /-- The sign, true for minus. -/
  sign : Option Bool
  /-- The digits. -/
  digits : List Char

/-- **The text of a numeral, in parts.** -/
structure Spelling where
  /-- The sign, true for minus. -/
  sign : Option Bool
  /-- The digits before the point. -/
  whole : List Char
  /-- The digits after the point, if there is a point. -/
  fraction : Option (List Char)
  /-- The power of ten. -/
  power : Option PowerSpelling

/-- The text of a sign. -/
def signText : Option Bool → List Char
  | none => []
  | some true => ['-']
  | some false => ['+']

/-- The text of a point and what follows it. -/
def fractionText : Option (List Char) → List Char
  | none => []
  | some digits => '.' :: digits

/-- The text of a power of ten. -/
def powerText : Option PowerSpelling → List Char
  | none => []
  | some p => p.mark :: (signText p.sign ++ p.digits)

/-- What a power of ten is read as. -/
def PowerSpelling.parts (p : PowerSpelling) : Bool × List Char :=
  (p.sign == some true, p.digits)

namespace Spelling

/-- The text of a numeral. -/
def text (sp : Spelling) : List Char :=
  signText sp.sign ++ (sp.whole ++ (fractionText sp.fraction ++ powerText sp.power))

/-- The numeral that is spelled. -/
def numeral (sp : Spelling) : Numeral where
  negative := sp.sign == some true
  whole := sp.whole
  fraction := sp.fraction.getD []
  power := sp.power.map PowerSpelling.parts

end Spelling

/-- The digits of a power of ten are in a class, and there is one. -/
structure PowerSpelling.InDigits (digit : Char → Bool) (p : PowerSpelling) : Prop where
  mark : p.mark = 'e' ∨ p.mark = 'E'
  digits_ne_nil : p.digits ≠ []
  digits : ∀ c ∈ p.digits, digit c = true

/-- **The digits of a spelling are in a class,** and there is one before or after the point. -/
structure Spelling.InDigits (digit : Char → Bool) (sp : Spelling) : Prop where
  whole : ∀ c ∈ sp.whole, digit c = true
  fraction : ∀ c ∈ sp.fraction.getD [], digit c = true
  ne_nil : sp.whole = [] → sp.fraction.getD [] ≠ []
  power : ∀ p ∈ sp.power, p.InDigits digit

/-- The characters of numerals that are no digits. -/
def marks : List Char :=
  ['+', '-', '.', 'e', 'E']

/-- None of the other characters of numerals is in the class of digits.  Readers differ in what
they take for a digit, and this is all that their classes need to have in common. -/
def SetsOffMarks (digit : Char → Bool) : Prop :=
  ∀ c ∈ marks, digit c = false

/-- **A text does not go on with a numeral:** it begins with no digit, point or mark of a power,
or is empty. -/
def Ends (digit : Char → Bool) (r : List Char) : Prop :=
  ∀ d ∈ r.head?, digit d = false ∧ d ≠ '.' ∧ d ≠ 'e' ∧ d ≠ 'E'

theorem setsOffMarks_of_all (h : marks.all (digit · == false) = true) : SetsOffMarks digit :=
  fun c hc => beq_iff_eq.1 (List.all_eq_true.1 h c hc)

theorem setsOffMarks_isAsciiDigit : SetsOffMarks isAsciiDigit :=
  setsOffMarks_of_all (by decide)

theorem setsOffMarks_isDecimalDigit : SetsOffMarks isDecimalDigit :=
  setsOffMarks_of_all (by decide)

theorem ends_nil : Ends digit [] :=
  fun _ hd => nomatch hd

/-! ### Larger classes of digits -/

theorem PowerSpelling.InDigits.mono {p : PowerSpelling} (h : p.InDigits digit)
    (hwider : ∀ c, digit c = true → wider c = true) : p.InDigits wider where
  mark := h.mark
  digits_ne_nil := h.digits_ne_nil
  digits c hc := hwider c (h.digits c hc)

theorem Spelling.InDigits.mono {sp : Spelling} (h : sp.InDigits digit)
    (hwider : ∀ c, digit c = true → wider c = true) : sp.InDigits wider where
  whole c hc := hwider c (h.whole c hc)
  fraction c hc := hwider c (h.fraction c hc)
  ne_nil := h.ne_nil
  power p hp := (h.power p hp).mono hwider

/-! ### Characters of a spelling -/

theorem mem_marks_of_mem_signText {sg : Option Bool} (h : c ∈ signText sg) : c ∈ marks := by
  rcases sg with _ | (_ | _)
  · cases h
  · rw [List.mem_singleton.1 h]
    decide
  · rw [List.mem_singleton.1 h]
    decide

/-- **A numeral is written in digits and the marks of numerals alone.** -/
theorem Spelling.InDigits.digit_or_mark {sp : Spelling} (h : sp.InDigits digit) (hc : c ∈ sp.text) :
    digit c = true ∨ c ∈ marks := by
  simp only [Spelling.text, List.mem_append] at hc
  rcases hc with hc | hc | hc | hc
  · exact Or.inr (mem_marks_of_mem_signText hc)
  · exact Or.inl (h.whole c hc)
  · have hfraction := h.fraction
    cases hpoint : sp.fraction with
    | none =>
      rw [hpoint] at hc
      cases hc
    | some digits =>
      rw [hpoint] at hc hfraction
      rcases List.mem_cons.1 hc with rfl | hc
      · right
        decide
      · exact Or.inl (hfraction c hc)
  · cases hpower : sp.power with
    | none =>
      rw [hpower] at hc
      cases hc
    | some p =>
      have hp := h.power p hpower
      rw [hpower] at hc
      rcases List.mem_cons.1 hc with rfl | hc
      · right
        rcases hp.mark with hmark | hmark <;> rw [hmark] <;> decide
      · rcases List.mem_append.1 hc with hc | hc
        · exact Or.inr (mem_marks_of_mem_signText hc)
        · exact Or.inl (hp.digits c hc)

/-! ### What is spelled is read -/

/-- A sign is read where no other sign follows. -/
theorem sign_signText {sg : Option Bool} (hu : ∀ d ∈ u.head?, d ≠ '+' ∧ d ≠ '-') :
    sign (signText sg ++ u) = (sg == some true, u) := by
  rcases sg with _ | (_ | _)
  · cases u with
    | nil => rfl
    | cons d u =>
      obtain ⟨hplus, hminus⟩ := hu d rfl
      simp [signText, sign, hplus, hminus]
  · rfl
  · rfl

/-- A digit is no sign. -/
theorem ne_sign_of_digit (hdigit : SetsOffMarks digit) (hc : digit c = true) :
    c ≠ '+' ∧ c ≠ '-' := by
  constructor
  · rintro rfl
    rw [hdigit '+' (by decide)] at hc
    cases hc
  · rintro rfl
    rw [hdigit '-' (by decide)] at hc
    cases hc

theorem ne_sign_of_mem_head? (hdigit : SetsOffMarks digit) (hs : ∀ c ∈ s, digit c = true)
    (hne : s ≠ []) : ∀ d ∈ (s ++ r).head?, d ≠ '+' ∧ d ≠ '-' := by
  obtain ⟨c, s, rfl⟩ := List.exists_cons_of_ne_nil hne
  rintro d ⟨⟩
  exact ne_sign_of_digit hdigit (hs c List.mem_cons_self)

/-- A power of ten is read to its end, and none where none is spelled. -/
theorem scanPower_powerText {power : Option PowerSpelling} (hdigit : SetsOffMarks digit)
    (h : ∀ p ∈ power, p.InDigits digit) (hr : Ends digit r) :
    scanPower digit (powerText power ++ r) = (power.map PowerSpelling.parts, r) := by
  cases power with
  | none =>
    cases r with
    | nil => rfl
    | cons d r =>
      obtain ⟨-, -, he, hE⟩ := hr d rfl
      simp [powerText, scanPower, he, hE]
  | some p =>
    have hp := h p rfl
    have hsign : sign (signText p.sign ++ (p.digits ++ r)) = (p.sign == some true, p.digits ++ r) :=
      sign_signText (ne_sign_of_mem_head? hdigit hp.digits hp.digits_ne_nil)
    have htext : powerText (some p) ++ r = p.mark :: (signText p.sign ++ (p.digits ++ r)) := by
      simp [powerText]
    have hspan := span_append hp.digits fun d hd => (hr d hd).1
    obtain ⟨c, digits, hcons⟩ := List.exists_cons_of_ne_nil hp.digits_ne_nil
    rw [htext, scanPower, if_pos hp.mark, hsign]
    rw [hcons] at hspan ⊢
    simp only [hspan.1, hspan.2, Option.map_some, PowerSpelling.parts, hcons]

/-- A power of ten begins with no digit and no point, and so does what follows where there is
none. -/
theorem of_mem_head?_powerText {power : Option PowerSpelling} (hdigit : SetsOffMarks digit)
    (h : ∀ p ∈ power, p.InDigits digit) (hr : Ends digit r) :
    ∀ d ∈ (powerText power ++ r).head?, digit d = false ∧ d ≠ '.' := by
  cases power with
  | none =>
    intro d hd
    exact ⟨(hr d hd).1, (hr d hd).2.1⟩
  | some p =>
    rintro d ⟨⟩
    rcases (h p rfl).mark with hmark | hmark <;> rw [hmark]
    · exact ⟨hdigit 'e' (by decide), by decide⟩
    · exact ⟨hdigit 'E' (by decide), by decide⟩

/-- Digits with a point after them, or before others, are scanned to the power of ten. -/
theorem scan?_point {negative : Bool} (hdigit : SetsOffMarks digit)
    (hsign : sign s = (negative, u ++ '.' :: t)) (hu : ∀ c ∈ u, digit c = true)
    (hne : u = [] → t.takeWhile digit ≠ []) :
    scan? digit s =
      some (⟨negative, u, t.takeWhile digit, (scanPower digit (t.dropWhile digit)).1⟩,
        (scanPower digit (t.dropWhile digit)).2) := by
  have hspan := span_append (b := '.' :: t) hu (by rintro d ⟨⟩; exact hdigit '.' (by decide))
  unfold scan?
  simp only [hsign, hspan.1, hspan.2]
  cases u with
  | cons c u => rfl
  | nil =>
    -- without digits before the point the scanner asks for one behind it
    cases htake : t.takeWhile digit with
    | nil => exact absurd htake (hne rfl)
    | cons c fraction => simp only [htake]

/-- Digits without a point are scanned to the power of ten. -/
theorem scan?_whole {negative : Bool} (hsign : sign s = (negative, u ++ t))
    (hu : ∀ c ∈ u, digit c = true) (hne : u ≠ [])
    (ht : ∀ d ∈ t.head?, digit d = false ∧ d ≠ '.') :
    scan? digit s = some (⟨negative, u, [], (scanPower digit t).1⟩, (scanPower digit t).2) := by
  have hspan := span_append hu fun d hd => (ht d hd).1
  unfold scan?
  simp only [hsign, hspan.1, hspan.2]
  obtain ⟨c, u, rfl⟩ := List.exists_cons_of_ne_nil hne
  cases t with
  | nil => rfl
  | cons d t =>
    have hpoint : d ≠ '.' := (ht d rfl).2
    -- of the four shapes that the scanner tells apart the last one is left
    split
    · next hnil _ => cases hnil
    · next hnil _ => cases hnil
    · next hcons _ => exact absurd (List.cons.inj hcons).1 hpoint
    · rfl

/-- A numeral is scanned as it is spelled where its power of ten is, and where neither more
digits nor a point follow the digits before that. -/
theorem scan?_text_of_scanPower {sp : Spelling} (hdigit : SetsOffMarks digit)
    (h : sp.InDigits digit)
    (hpower : scanPower digit (powerText sp.power ++ r) = (sp.power.map PowerSpelling.parts, r))
    (hhead : ∀ d ∈ (powerText sp.power ++ r).head?, digit d = false ∧ d ≠ '.') :
    scan? digit (sp.text ++ r) = some (sp.numeral, r) := by
  obtain ⟨sg, whole, fraction, power⟩ := sp
  cases fraction with
  | some fraction =>
    have htext : (Spelling.mk sg whole (some fraction) power).text ++ r =
        signText sg ++ (whole ++ '.' :: (fraction ++ (powerText power ++ r))) := by
      simp [Spelling.text, fractionText]
    have hsign : sign (signText sg ++ (whole ++ '.' :: (fraction ++ (powerText power ++ r)))) =
        (sg == some true, whole ++ '.' :: (fraction ++ (powerText power ++ r))) := by
      refine sign_signText ?_
      cases whole with
      | nil =>
        rintro d ⟨⟩
        decide
      | cons c whole => exact ne_sign_of_mem_head? hdigit h.whole (List.cons_ne_nil c whole)
    obtain ⟨htake, hdrop⟩ := span_append (a := fraction) h.fraction fun d hd => (hhead d hd).1
    have hne : whole = [] →
        (fraction ++ (powerText power ++ r)).takeWhile digit ≠ [] := by
      rw [htake]
      exact h.ne_nil
    rw [htext, scan?_point hdigit hsign h.whole hne, htake, hdrop, hpower]
    rfl
  | none =>
    have hne : whole ≠ [] := fun hnil => h.ne_nil hnil rfl
    have htext : (Spelling.mk sg whole none power).text ++ r =
        signText sg ++ (whole ++ (powerText power ++ r)) := by
      simp [Spelling.text, fractionText]
    have hsign : sign (signText sg ++ (whole ++ (powerText power ++ r))) =
        (sg == some true, whole ++ (powerText power ++ r)) :=
      sign_signText (ne_sign_of_mem_head? hdigit h.whole hne)
    rw [htext, scan?_whole hsign h.whole hne hhead, hpower]
    rfl

/-- **A numeral is read as it is spelled,** to its end. -/
theorem scan?_text {sp : Spelling} (hdigit : SetsOffMarks digit) (h : sp.InDigits digit)
    (hr : Ends digit r) : scan? digit (sp.text ++ r) = some (sp.numeral, r) :=
  scan?_text_of_scanPower hdigit h (scanPower_powerText hdigit h.power hr)
    (of_mem_head?_powerText hdigit h.power hr)

/-! ### What is read is spelled -/

/-- A sign that is read was spelled. -/
theorem exists_signText (s : List Char) :
    ∃ sg, s = signText sg ++ (sign s).2 ∧ (sg == some true) = (sign s).1 := by
  unfold sign
  split
  · exact ⟨some true, rfl, rfl⟩
  · exact ⟨some false, rfl, rfl⟩
  · exact ⟨none, rfl, rfl⟩

/-- A row of digits that is read is the beginning of the text. -/
theorem span_digits (digit : Char → Bool) (s : List Char) :
    s = s.takeWhile digit ++ s.dropWhile digit ∧ ∀ c ∈ s.takeWhile digit, digit c = true :=
  ⟨List.takeWhile_append_dropWhile.symm, fun _ hc => List.mem_takeWhile_imp hc⟩

/-- A power of ten that is read was spelled. -/
theorem exists_powerText (digit : Char → Bool) (s : List Char) :
    ∃ power, s = powerText power ++ (scanPower digit s).2 ∧
      (∀ p ∈ power, p.InDigits digit) ∧
      power.map PowerSpelling.parts = (scanPower digit s).1 := by
  have hnone : ∀ p ∈ (none : Option PowerSpelling), p.InDigits digit := fun _ hp => nomatch hp
  unfold scanPower
  split
  · next c rest =>
    split
    · next hmark =>
      obtain ⟨sg, hrest, hsg⟩ := exists_signText rest
      obtain ⟨hafter, hdigits⟩ := span_digits digit (sign rest).2
      simp only
      split
      -- a mark without digits behind it belongs to what follows the numeral
      · exact ⟨none, rfl, hnone, rfl⟩
      · next hne =>
        refine ⟨some ⟨c, sg, (sign rest).2.takeWhile digit⟩, ?_, ?_, ?_⟩
        · rw [powerText, List.cons_append, List.append_assoc, ← hafter, ← hrest]
        · rintro p ⟨⟩
          exact ⟨hmark, hne, hdigits⟩
        · rw [Option.map_some, PowerSpelling.parts, hsg]
    · exact ⟨none, rfl, hnone, rfl⟩
  · exact ⟨none, rfl, hnone, rfl⟩

/-- The spelling of a numeral with a point. -/
theorem exists_spelling_of_point {sg : Option Bool} (hs : s = signText sg ++ (u ++ '.' :: t))
    (hu : ∀ c ∈ u, digit c = true) (hne : u = [] → t.takeWhile digit ≠ []) :
    ∃ sp : Spelling, sp.InDigits digit ∧
      s = sp.text ++ (scanPower digit (t.dropWhile digit)).2 ∧
      sp.numeral = ⟨sg == some true, u, t.takeWhile digit,
        (scanPower digit (t.dropWhile digit)).1⟩ := by
  obtain ⟨ht, hdigits⟩ := span_digits digit t
  obtain ⟨power, hpower, hin, hparts⟩ := exists_powerText digit (t.dropWhile digit)
  refine ⟨⟨sg, u, some (t.takeWhile digit), power⟩, ⟨hu, hdigits, hne, hin⟩, ?_, ?_⟩
  · simp only [Spelling.text, fractionText, List.append_assoc, List.cons_append]
    rw [← hpower, ← ht]
    exact hs
  · rw [Spelling.numeral, hparts, Option.getD_some]

/-- The spelling of a numeral without a point. -/
theorem exists_spelling_of_whole {sg : Option Bool} (hs : s = signText sg ++ (u ++ t))
    (hu : ∀ c ∈ u, digit c = true) (hne : u ≠ []) :
    ∃ sp : Spelling, sp.InDigits digit ∧ s = sp.text ++ (scanPower digit t).2 ∧
      sp.numeral = ⟨sg == some true, u, [], (scanPower digit t).1⟩ := by
  obtain ⟨power, hpower, hin, hparts⟩ := exists_powerText digit t
  have hfraction : ∀ c ∈ (none : Option (List Char)).getD [], digit c = true := by
    rintro c ⟨⟩
  refine ⟨⟨sg, u, none, power⟩, ⟨hu, hfraction, fun hnil => absurd hnil hne, hin⟩, ?_, ?_⟩
  · simp only [Spelling.text, fractionText, List.append_assoc, List.nil_append, ← hpower]
    exact hs
  · rw [Spelling.numeral, hparts, Option.getD_none]

/-- **Whatever is read was spelled.** -/
theorem exists_spelling_of_scan? {n : Numeral} (h : scan? digit s = some (n, r)) :
    ∃ sp : Spelling, sp.InDigits digit ∧ s = sp.text ++ r ∧ sp.numeral = n := by
  obtain ⟨sg, hs, hsg⟩ := exists_signText s
  obtain ⟨hunsigned, hdigits⟩ := span_digits digit (sign s).2
  rw [hunsigned] at hs
  unfold scan? at h
  simp only [← hsg] at h
  split at h
  · next rest hnil hpoint =>
    rw [hnil, hpoint] at hs
    split at h
    · cases h
    · next hne =>
      cases h
      exact exists_spelling_of_point hs (fun _ hc => nomatch hc) fun _ => hne
  · cases h
  · next rest hpoint hne =>
    rw [hpoint] at hs
    cases h
    exact exists_spelling_of_point hs hdigits fun hnil => absurd hnil hne
  · next hne _ _ =>
    cases h
    exact exists_spelling_of_whole hs hdigits hne

/-! ### What is passed over -/

/-- No power of ten is read out of a text without digits, even if it begins with the mark of
one. -/
theorem scanPower_of_forall (hr : ∀ d ∈ r, digit d = false) : scanPower digit r = (none, r) := by
  unfold scanPower
  split
  · next c rest =>
    obtain ⟨sg, hrest, -⟩ := exists_signText rest
    have hafter : (sign rest).2.takeWhile digit = [] := by
      cases hsign : (sign rest).2 with
      | nil => rfl
      | cons d after =>
        have hd : d ∈ c :: rest := by
          rw [hrest, hsign]
          simp
        rw [List.takeWhile_cons_of_neg (by simp [hr d hd])]
    split
    · simp only [hafter]
    · rfl
  · rfl

/-- No numeral begins with a character that is no digit, no sign and no point. -/
theorem scan?_cons_eq_none (hdigit : digit c = false) (hplus : c ≠ '+') (hminus : c ≠ '-')
    (hpoint : c ≠ '.') (s : List Char) : scan? digit (c :: s) = none := by
  have hsign : sign (c :: s) = (false, c :: s) := by simp [sign, hplus, hminus]
  have hother : ¬ digit c = true := by simp [hdigit]
  unfold scan?
  simp only [hsign, List.takeWhile_cons_of_neg hother, List.dropWhile_cons_of_neg hother]
  split
  · next heq => exact absurd (List.cons.inj heq).1 hpoint
  · rfl
  · next heq _ => exact absurd (List.cons.inj heq).1 hpoint
  · next hne _ _ => exact absurd rfl hne

/-- What holds no beginning of a numeral is passed over. -/
theorem find?_append (ha : ∀ c ∈ s, digit c = false ∧ c ≠ '+' ∧ c ≠ '-' ∧ c ≠ '.')
    (r : List Char) : find? digit (s ++ r) = find? digit r := by
  induction s with
  | nil => rfl
  | cons c s ih =>
    obtain ⟨⟨hdigit, hplus, hminus, hpoint⟩, hs⟩ := List.forall_mem_cons.1 ha
    rw [List.cons_append, find?, scan?_cons_eq_none hdigit hplus hminus hpoint]
    exact ih hs

/-! ### The number that a text spells -/

/-- **A text spells a number:** it is the spelling, in ASCII digits, of a numeral that the
number is nearest to. -/
def Spells (t : List Char) (x : Binary64) : Prop :=
  ∃ sp : Spelling, sp.InDigits isAsciiDigit ∧ t = sp.text ∧ sp.numeral.nearest = x

/-- A numeral in ASCII digits has a value. -/
theorem value?_numeral {sp : Spelling} (h : sp.InDigits isAsciiDigit) :
    sp.numeral.value? = some sp.numeral.nearest := by
  have hpower : (sp.numeral.power.map (·.2.all isAsciiDigit)).getD true = true := by
    cases hp : sp.power with
    | none => simp only [Spelling.numeral, hp, Option.map_none, Option.getD_none]
    | some p =>
      have hdigits := (h.power p hp).digits
      simpa only [Spelling.numeral, hp, Option.map_some, Option.getD_some, PowerSpelling.parts,
        List.all_eq_true] using hdigits
  have hascii : sp.numeral.isAscii = true := by
    rw [isAscii, hpower, Bool.and_true, Bool.and_eq_true, List.all_eq_true, List.all_eq_true]
    exact ⟨h.whole, h.fraction⟩
  rw [value?, if_pos hascii]

/-- Digits of any script are looked for, and those of ASCII are found. -/
theorem scan?_text_of_isAsciiDigit {sp : Spelling} (h : sp.InDigits isAsciiDigit)
    (hr : Ends isDecimalDigit r) :
    scan? isDecimalDigit (sp.text ++ r) = some (sp.numeral, r) :=
  scan?_text setsOffMarks_isDecimalDigit (h.mono fun _ => isDecimalDigit_of_isAsciiDigit) hr

/-- What a text begins with is the first that is found in it. -/
theorem find?_of_scan? {n : Numeral} (h : scan? digit s = some (n, r)) :
    find? digit s = some n := by
  cases s with
  | nil => cases h
  | cons c s => rw [find?, h]

end Numeral

open Numeral in
/-- **The texts that are read as numbers are those that spell them.** -/
theorem readNumber?_eq_some_iff {t : List Char} {x : Binary64} :
    readNumber? t = some x ↔ Spells t x := by
  constructor
  · intro h
    unfold readNumber? at h
    split at h
    · next n hscan =>
      obtain ⟨sp, hin, htext, rfl⟩ := exists_spelling_of_scan? hscan
      rw [value?_numeral hin] at h
      exact ⟨sp, hin, htext.trans (List.append_nil _), Option.some.inj h⟩
    · cases h
  · rintro ⟨sp, hin, rfl, rfl⟩
    have hscan := scan?_text setsOffMarks_isAsciiDigit hin (r := []) ends_nil
    rw [List.append_nil] at hscan
    unfold readNumber?
    simp only [hscan, value?_numeral hin]

end RecordFlow
