import Mathlib.Data.List.TakeWhile
import RecordFlow.Text.Blank
import RecordFlow.Text.CharClass
import RecordFlow.Text.Search

/-!
# Scanning plain text

What the readers of formulas and paths need to know about plain text: how trimming passes
through a concatenation, what follows a beginning that a text is known to have, and which
classes of characters are disjoint.

Trimming is two `dropWhile`s, one of them under a reversal.  The facts below let a reader of a
formula forget that: white space around a text goes (`trim_append_of_allBlank`,
`trim_append_left_of_allBlank`), and a text whose last part is not blank is trimmed in that part
alone (`trimEnd_append`).
-/

namespace RecordFlow.Text

variable {a b s : List Char} {c : Char}

/-! ### Blank texts -/

theorem allBlank_iff : allBlank s = true ↔ ∀ c ∈ s, isBlank c = true := by
  rw [allBlank, List.all_eq_true]

theorem allBlank_eq_false_iff : allBlank s = false ↔ ∃ c ∈ s, isBlank c = false := by
  rw [allBlank, List.all_eq_false]
  simp

/-- A text with a character that is not blank in it is not blank. -/
theorem allBlank_eq_false_of_mem (hc : c ∈ s) (h : isBlank c = false) :
    allBlank s = false :=
  allBlank_eq_false_iff.2 ⟨c, hc, h⟩

theorem notMem_of_allBlank (hs : allBlank s = true) (hc : isBlank c = false) : c ∉ s := by
  intro hmem
  rw [allBlank_eq_false_of_mem hmem hc] at hs
  cases hs

/-- What is white space is no other character. -/
theorem ne_of_isBlank {d : Char} (hd : isBlank d = true) (hc : isBlank c = false) : d ≠ c := by
  rintro rfl
  rw [hc] at hd
  cases hd

/-- Without its white space nothing is left of a blank text. -/
theorem allBlank_append_of_right (h : allBlank b = false) (a : List Char) :
    allBlank (a ++ b) = false := by
  obtain ⟨c, hc, hblank⟩ := allBlank_eq_false_iff.1 h
  exact allBlank_eq_false_of_mem (List.mem_append_right a hc) hblank

theorem allBlank_reverse : allBlank s.reverse = allBlank s := by
  rw [allBlank, allBlank, List.all_reverse]

/-! ### Trimming at the start -/

theorem trimStart_cons_of_not_blank (h : isBlank c = false) (s : List Char) :
    trimStart (c :: s) = c :: s := by
  rw [trimStart, List.dropWhile_cons_of_neg (by simp [h])]

/-- A text without white space in it is left as it is. -/
theorem trimStart_of_forall (h : ∀ c ∈ s, isBlank c = false) : trimStart s = s := by
  cases s with
  | nil => rfl
  | cons c s => exact trimStart_cons_of_not_blank (h c List.mem_cons_self) s

theorem trimStart_append_of_allBlank (h : allBlank a = true) (b : List Char) :
    trimStart (a ++ b) = trimStart b :=
  List.dropWhile_append_of_pos (allBlank_iff.1 h)

theorem trimStart_eq_nil_iff : trimStart s = [] ↔ allBlank s = true := by
  rw [trimStart, List.dropWhile_eq_nil_iff, allBlank_iff]

theorem trimStart_append (h : allBlank a = false) (b : List Char) :
    trimStart (a ++ b) = trimStart a ++ b := by
  have hne : (a.dropWhile isBlank).isEmpty = false := by
    rw [List.isEmpty_eq_false_iff, Ne, ← trimStart, trimStart_eq_nil_iff, h]
    exact Bool.false_ne_true
  rw [trimStart, List.dropWhile_append, hne]
  rfl

/-- What is cut off at the start is blank. -/
theorem exists_eq_append_trimStart (s : List Char) :
    ∃ a, allBlank a = true ∧ s = a ++ trimStart s := by
  refine ⟨s.takeWhile isBlank, ?_, List.takeWhile_append_dropWhile.symm⟩
  rw [allBlank_iff]
  intro c hc
  exact List.mem_takeWhile_imp hc

/-! ### Trimming at the end -/

theorem trimEnd_eq : trimEnd s = (trimStart s.reverse).reverse := rfl

theorem trimEnd_append_of_allBlank (h : allBlank b = true) (a : List Char) :
    trimEnd (a ++ b) = trimEnd a := by
  rw [trimEnd_eq, List.reverse_append, trimStart_append_of_allBlank, ← trimEnd_eq]
  rw [allBlank_reverse, h]

/-- Only the last part that is not blank is trimmed. -/
theorem trimEnd_append (h : allBlank b = false) (a : List Char) :
    trimEnd (a ++ b) = a ++ trimEnd b := by
  rw [trimEnd_eq, List.reverse_append, trimStart_append, List.reverse_append,
    List.reverse_reverse, ← trimEnd_eq]
  rw [allBlank_reverse, h]

theorem trimEnd_concat (h : isBlank c = false) (s : List Char) :
    trimEnd (s ++ [c]) = s ++ [c] := by
  rw [trimEnd_append (allBlank_eq_false_of_mem (List.mem_singleton_self c) h), trimEnd_eq]
  rw [List.reverse_singleton, trimStart_cons_of_not_blank h, List.reverse_singleton]

theorem trimEnd_of_forall (h : ∀ c ∈ s, isBlank c = false) : trimEnd s = s := by
  rcases List.eq_nil_or_concat s with rfl | ⟨front, last, rfl⟩
  · rfl
  · rw [List.concat_eq_append] at h ⊢
    exact trimEnd_concat (h last (List.mem_append_right front (List.mem_singleton_self last))) front

/-- What is cut off at the end is blank. -/
theorem exists_eq_trimEnd_append (s : List Char) :
    ∃ b, allBlank b = true ∧ s = trimEnd s ++ b := by
  obtain ⟨a, ha, hs⟩ := exists_eq_append_trimStart s.reverse
  refine ⟨a.reverse, by rw [allBlank_reverse, ha], ?_⟩
  rw [trimEnd_eq, ← List.reverse_append, ← hs, List.reverse_reverse]

/-- What is left does not end in white space. -/
theorem not_isBlank_of_getLast?_trimEnd (h : (trimEnd s).getLast? = some c) :
    isBlank c = false := by
  have hhead := List.head?_dropWhile_not isBlank s.reverse
  rw [trimEnd, List.getLast?_reverse] at h
  rw [h] at hhead
  exact hhead

theorem mem_of_mem_trimEnd (h : c ∈ trimEnd s) : c ∈ s := by
  obtain ⟨b, -, hs⟩ := exists_eq_trimEnd_append s
  rw [hs]
  exact List.mem_append_left b h

theorem mem_of_mem_trimStart (h : c ∈ trimStart s) : c ∈ s :=
  (List.dropWhile_sublist _).mem h

/-! ### Trimming on both sides -/

theorem trim_append_left_of_allBlank (h : allBlank a = true) (s : List Char) :
    trim (a ++ s) = trim s := by
  rw [trim, trim, trimStart_append_of_allBlank h]

theorem trim_append_of_allBlank (h : allBlank b = true) (s : List Char) :
    trim (s ++ b) = trim s := by
  rw [trim, trim]
  cases hs : allBlank s with
  | true =>
      rw [trimStart_append_of_allBlank hs, trimStart_eq_nil_iff.2 h,
        trimStart_eq_nil_iff.2 hs]
  | false => rw [trimStart_append hs, trimEnd_append_of_allBlank h]

/-- Each side of a text is trimmed on its own. -/
theorem trim_append (ha : allBlank a = false) (hb : allBlank b = false) :
    trim (a ++ b) = trimStart a ++ trimEnd b := by
  rw [trim, trimStart_append ha, trimEnd_append hb]

theorem trim_trimStart (s : List Char) : trim (trimStart s) = trim s := by
  obtain ⟨a, ha, hs⟩ := exists_eq_append_trimStart s
  calc trim (trimStart s) = trim (a ++ trimStart s) := (trim_append_left_of_allBlank ha _).symm
    _ = trim s := by rw [← hs]

theorem trim_trimEnd (s : List Char) : trim (trimEnd s) = trim s := by
  obtain ⟨b, hb, hs⟩ := exists_eq_trimEnd_append s
  calc trim (trimEnd s) = trim (trimEnd s ++ b) := (trim_append_of_allBlank hb _).symm
    _ = trim s := by rw [← hs]

/-- Trimming each side once more, in the other order, changes nothing. -/
theorem trim_trimStart_trimEnd (s : List Char) : trim (trimStart (trimEnd s)) = trim s := by
  rw [trim_trimStart, trim_trimEnd]

/-- A text that begins and ends in something else than white space is left as it is. -/
theorem trim_eq_self {d : Char} (hc : s.head? = some c) (hcb : isBlank c = false)
    (hd : s.getLast? = some d) (hdb : isBlank d = false) : trim s = s := by
  obtain ⟨r, hr⟩ := List.head?_eq_some_iff.1 hc
  obtain ⟨front, hfront⟩ := List.getLast?_eq_some_iff.1 hd
  rw [trim, hr, trimStart_cons_of_not_blank hcb, ← hr, hfront, trimEnd_concat hdb]

theorem trim_of_forall (h : ∀ c ∈ s, isBlank c = false) : trim s = s := by
  rw [trim, trimStart_of_forall h, trimEnd_of_forall h]

/-- **There is no white space at either end of a text.**  Readers of texts trim what they read,
and this is what trimming leaves alone. -/
def IsTrimmed (s : List Char) : Prop :=
  (∀ c ∈ s.head?, isBlank c = false) ∧ ∀ c ∈ s.getLast?, isBlank c = false

instance (s : List Char) : Decidable (IsTrimmed s) :=
  decidable_of_iff
    (s.head?.all (isBlank · == false) = true ∧ s.getLast?.all (isBlank · == false) = true)
    (by simp only [IsTrimmed, Option.all_eq_true, beq_iff_eq, Option.mem_def])

/-- A text without white space at its ends is left as it is. -/
theorem IsTrimmed.trim_eq (h : IsTrimmed s) : trim s = s := by
  cases s with
  | nil => rfl
  | cons c s =>
    have hlast := List.getLast?_eq_some_getLast (List.cons_ne_nil c s)
    exact trim_eq_self rfl (h.1 c rfl) hlast (h.2 _ hlast)

/-- What is trimmed is blank. -/
theorem exists_eq_append_trim_append (s : List Char) :
    ∃ a b, allBlank a = true ∧ allBlank b = true ∧ s = a ++ (trim s ++ b) := by
  obtain ⟨a, ha, hs⟩ := exists_eq_append_trimStart s
  obtain ⟨b, hb, hrest⟩ := exists_eq_trimEnd_append (trimStart s)
  refine ⟨a, b, ha, hb, ?_⟩
  calc s = a ++ trimStart s := hs
    _ = a ++ (trim s ++ b) := congrArg (a ++ ·) hrest

/-- Trimming once is enough. -/
theorem trim_trim (s : List Char) : trim (trim s) = trim s := by
  obtain ⟨a, b, ha, hb, hs⟩ := exists_eq_append_trim_append s
  calc trim (trim s) = trim (trim s ++ b) := (trim_append_of_allBlank hb _).symm
    _ = trim (a ++ (trim s ++ b)) := (trim_append_left_of_allBlank ha _).symm
    _ = trim s := by rw [← hs]

theorem trim_ne_nil (h : allBlank s = false) : trim s ≠ [] := by
  intro hnil
  obtain ⟨a, b, ha, hb, hs⟩ := exists_eq_append_trim_append s
  rw [hs, hnil, List.nil_append, allBlank, List.all_append, ← allBlank, ← allBlank, ha, hb] at h
  cases h

/-- A trimmed text does not end in a blank part. -/
theorem allBlank_of_trim_eq_append (h : trim s = a ++ b) (hb : b ≠ []) : allBlank b = false := by
  obtain ⟨front, last, rfl⟩ := (List.eq_nil_or_concat b).resolve_left hb
  rw [List.concat_eq_append] at h ⊢
  have hlast : (trim s).getLast? = some last := by
    rw [h, ← List.append_assoc, List.getLast?_concat]
  exact allBlank_eq_false_of_mem (List.mem_append_right front (List.mem_singleton_self last))
    (not_isBlank_of_getLast?_trimEnd hlast)

/-- A text that is not blank is not blank when its end is trimmed. -/
theorem allBlank_trimEnd (s : List Char) : allBlank (trimEnd s) = allBlank s := by
  obtain ⟨b, hb, hs⟩ := exists_eq_trimEnd_append s
  calc allBlank (trimEnd s) = (allBlank (trimEnd s) && allBlank b) := by rw [hb, Bool.and_true]
    _ = allBlank (trimEnd s ++ b) := List.all_append.symm
    _ = allBlank s := by rw [← hs]

/-! ### Rows of characters -/

/-- A row of characters of a class ends where the next character is of another class. -/
theorem span_append {p : Char → Bool} (ha : ∀ c ∈ a, p c = true)
    (hb : ∀ d ∈ b.head?, p d = false) :
    (a ++ b).takeWhile p = a ∧ (a ++ b).dropWhile p = b := by
  rw [List.takeWhile_append_of_pos ha, List.dropWhile_append_of_pos ha]
  cases b with
  | nil => simp
  | cons d b => simp [hb d rfl]

/-- A character of another class ends a row before it, wherever it stands. -/
theorem span_append_cons {p : Char → Bool} (hc : p c = false) (a b : List Char) :
    (a ++ c :: b).takeWhile p = a.takeWhile p ∧
      (a ++ c :: b).dropWhile p = a.dropWhile p ++ c :: b := by
  induction a with
  | nil => simp [hc]
  | cons d a ih => cases hd : p d <;> simp [hd, ih]

/-- What ends a row of characters is in what follows the row. -/
theorem mem_dropWhile {p : Char → Bool} (hc : p c = false) (h : c ∈ s) : c ∈ s.dropWhile p := by
  rw [← List.takeWhile_append_dropWhile (p := p) (l := s), List.mem_append] at h
  refine h.resolve_left fun htake => ?_
  rw [List.mem_takeWhile_imp htake] at hc
  cases hc

theorem mem_trimStart (hc : isBlank c = false) (h : c ∈ s) : c ∈ trimStart s :=
  mem_dropWhile hc h

/-! ### Beginnings -/

@[simp] theorem dropPrefix?_append (p s : List Char) : dropPrefix? p (p ++ s) = some s := by
  induction p with
  | nil => rfl
  | cons d p ih => rw [List.cons_append, dropPrefix?, if_pos rfl, ih]

/-- What is dropped is what was asked for. -/
theorem dropPrefix?_eq_some_iff {p s r : List Char} :
    dropPrefix? p s = some r ↔ s = p ++ r := by
  constructor
  · intro h
    induction p generalizing s with
    | nil => simpa [dropPrefix?] using h
    | cons d p ih =>
      cases s with
      | nil => simp [dropPrefix?] at h
      | cons e s =>
        rw [dropPrefix?] at h
        split at h
        · next hde => rw [hde, ih h, List.cons_append]
        · exact absurd h (by simp)
  · rintro rfl
    exact dropPrefix?_append p r

/-- What is not in a beginning is in the rest. -/
theorem mem_of_dropPrefix? (h : dropPrefix? a s = some b) (ha : c ∉ a) (hc : c ∈ s) : c ∈ b := by
  rw [dropPrefix?_eq_some_iff.1 h, List.mem_append] at hc
  exact hc.resolve_left ha

theorem dropPrefix?_eq_none {p s : List Char} (h : ¬ p <+: s) : dropPrefix? p s = none := by
  rw [Option.eq_none_iff_forall_ne_some]
  intro r hr
  exact h ⟨r, (dropPrefix?_eq_some_iff.1 hr).symm⟩

/-- A beginning that does not go on with the second part of a text is within the first. -/
theorem prefix_of_prefix_append {p : List Char} (h : p <+: a ++ b) (hb : ∀ d ∈ b.head?, d ∉ p) :
    p <+: a := by
  refine (List.prefix_or_prefix_of_prefix h (List.prefix_append a b)).elim id ?_
  rintro ⟨r, rfl⟩
  cases r with
  | nil => simp
  | cons d r =>
    obtain ⟨rest, rfl⟩ := (List.prefix_append_right_inj a).1 h
    exact absurd (List.mem_append_right a List.mem_cons_self) (hb d rfl)

/-- A text is cut at the first of the characters that it is cut at. -/
theorem cutAt?_singleton_append (hc : c ∉ a) (b : List Char) :
    cutAt? [c] (a ++ c :: b) = some (a, b) := by
  induction a with
  | nil => simp [cutAt?, dropPrefix?]
  | cons d a ih =>
    have hd : c ≠ d := List.ne_of_not_mem_cons hc
    rw [List.cons_append, cutAt?, dropPrefix?, if_neg hd, ih (List.not_mem_of_not_mem_cons hc)]
    rfl

/-- A text is not cut where there is nothing that it could be cut at. -/
theorem cutAt?_eq_none {separator : List Char} (h : ¬ separator <:+: s) :
    cutAt? separator s = none := by
  induction s with
  | nil =>
    have hdrop : dropPrefix? separator [] = none :=
      dropPrefix?_eq_none fun hbegins => h hbegins.isInfix
    rw [cutAt?, hdrop]
    rfl
  | cons c s ih =>
    have hdrop : dropPrefix? separator (c :: s) = none :=
      dropPrefix?_eq_none fun hbegins => h hbegins.isInfix
    rw [cutAt?, hdrop, ih fun hwithin => h (List.infix_cons hwithin)]
    rfl

theorem cutAt?_singleton_of_notMem (hc : c ∉ s) : cutAt? [c] s = none :=
  cutAt?_eq_none fun hwithin => hc (hwithin.subset (List.mem_singleton_self c))

theorem splitOn_ne_nil (separator s : List Char) : splitOn separator s ≠ [] := by
  rw [splitOn]
  split
  · exact List.cons_ne_nil _ _
  · split
    · exact List.cons_ne_nil _ _
    · exact List.cons_ne_nil _ _

theorem splitOn_singleton_of_notMem (hc : c ∉ s) : splitOn [c] s = [s] := by
  rw [splitOn, dif_neg (List.cons_ne_nil c []), cutAt?_singleton_of_notMem hc]

theorem splitOn_singleton_of_cutAt? (h : cutAt? [c] s = some (a, b)) :
    splitOn [c] s = a :: splitOn [c] b := by
  rw [splitOn, dif_neg (List.cons_ne_nil c []), h]

/-- Two texts with a separator between them have the parts of the one and then those of the
other. -/
theorem splitOn_singleton_append (c : Char) (a b : List Char) :
    splitOn [c] (a ++ c :: b) = splitOn [c] a ++ splitOn [c] b := by
  by_cases hc : c ∈ a
  · -- the first occurrence lies in the first text, and the rest of that is shorter
    obtain ⟨front, rest, rfl, hfront⟩ := List.eq_append_cons_of_mem hc
    rw [List.append_assoc, List.cons_append,
      splitOn_singleton_of_cutAt? (cutAt?_singleton_append hfront _),
      splitOn_singleton_of_cutAt? (cutAt?_singleton_append hfront _),
      splitOn_singleton_append c rest b, List.cons_append]
  · rw [splitOn_singleton_of_cutAt? (cutAt?_singleton_append hc b),
      splitOn_singleton_of_notMem hc, List.singleton_append]
termination_by a.length

/-- Where there is no occurrence nothing is replaced. -/
theorem replaceAll_singleton_of_notMem (hc : c ∉ s) (t : List Char) : replaceAll [c] t s = s := by
  rw [replaceAll, splitOn_singleton_of_notMem hc, joinWith]

/-- The first occurrence is replaced, and then what follows it is searched. -/
theorem replaceAll_singleton_append (hc : c ∉ a) (t b : List Char) :
    replaceAll [c] t (a ++ c :: b) = a ++ (t ++ replaceAll [c] t b) := by
  obtain ⟨part, parts, hparts⟩ := List.exists_cons_of_ne_nil (splitOn_ne_nil [c] b)
  rw [replaceAll, replaceAll, splitOn_singleton_of_cutAt? (cutAt?_singleton_append hc b), hparts,
    joinWith, List.append_assoc]

/-- **Where a single character is looked for,** each occurrence is replaced on its own. -/
theorem replaceAll_singleton (c : Char) (t s : List Char) :
    replaceAll [c] t s = s.flatMap fun d => if d = c then t else [d] := by
  have hkept {a : List Char} (hc : c ∉ a) :
      (a.flatMap fun d => if d = c then t else [d]) = a := by
    have hsingle : ∀ d ∈ a, (if d = c then t else [d]) = [d] := by
      intro d hd
      rw [if_neg]
      rintro rfl
      exact hc hd
    rw [List.flatMap_def, List.map_congr_left hsingle, ← List.flatMap_def, List.flatMap_singleton']
  by_cases hc : c ∈ s
  · obtain ⟨a, b, rfl, ha⟩ := List.eq_append_cons_of_mem hc
    rw [replaceAll_singleton_append ha, replaceAll_singleton c t b, List.flatMap_append,
      List.flatMap_cons, if_pos rfl, hkept ha]
  · rw [replaceAll_singleton_of_notMem hc, hkept hc]
termination_by s.length

theorem startsWith_iff {s needle : List Char} : startsWith s needle = true ↔ needle <+: s := by
  rw [startsWith, Option.isSome_iff_exists]
  constructor
  · rintro ⟨r, hr⟩
    exact ⟨r, (dropPrefix?_eq_some_iff.1 hr).symm⟩
  · rintro ⟨r, hr⟩
    exact ⟨r, dropPrefix?_eq_some_iff.2 hr.symm⟩

theorem endsWith_iff {s needle : List Char} : endsWith s needle = true ↔ needle <:+ s := by
  rw [endsWith, startsWith_iff, List.reverse_prefix]

theorem contains_iff {s needle : List Char} : contains s needle = true ↔ needle <:+: s := by
  induction s with
  | nil => simp [contains]
  | cons d s ih => rw [contains, Bool.or_eq_true, startsWith_iff, ih, List.infix_cons_iff]

/-! ### Classes of characters -/

/-- The codes of white space. -/
def blankCodes : List Nat :=
  [0x9, 0xA, 0xB, 0xC, 0xD, 0x20, 0x85, 0xA0, 0x1680, 0x2000, 0x2001, 0x2002, 0x2003, 0x2004,
    0x2005, 0x2006, 0x2007, 0x2008, 0x2009, 0x200A, 0x2028, 0x2029, 0x202F, 0x205F, 0x3000]

theorem toNat_mem_blankCodes (h : isBlank c = true) : c.toNat ∈ blankCodes := by
  simp only [isBlank, Bool.or_eq_true, Bool.and_eq_true, decide_eq_true_eq, beq_iff_eq] at h
  simp only [blankCodes, List.mem_cons, List.not_mem_nil, or_false]
  omega

/-- The listing of word characters has no white space in it. -/
theorem wordRanges_contains_blankCodes :
    ∀ n ∈ blankCodes, wordRanges.contains n = false := by
  decide +kernel

/-- **No word character is white space.** -/
theorem isWord_of_isBlank (h : isBlank c = true) : isWord c = false := by
  have hmem := toNat_mem_blankCodes h
  rw [isWord]
  split
  · next hlt =>
      have hc : c ≠ '_' := by
        rintro rfl
        simp [isBlank] at h
      simp only [isAsciiLetter, isAsciiDigit, Bool.or_eq_false_iff, beq_eq_false_iff_ne]
      refine ⟨?_, hc⟩
      simp only [blankCodes, List.mem_cons, List.not_mem_nil, or_false] at hmem
      simp
      omega
  · exact wordRanges_contains_blankCodes _ hmem

/-- The listing of decimal digits has no white space in it. -/
theorem decimalDigitRanges_contains_blankCodes :
    ∀ n ∈ blankCodes, decimalDigitRanges.contains n = false := by
  decide +kernel

/-- **No decimal digit is white space.** -/
theorem isBlank_of_isDecimalDigit (h : isDecimalDigit c = true) : isBlank c = false := by
  rw [Bool.eq_false_iff]
  intro hb
  have hmem := toNat_mem_blankCodes hb
  rw [isDecimalDigit] at h
  split at h
  · simp only [isAsciiDigit, Bool.and_eq_true, decide_eq_true_eq] at h
    simp only [blankCodes, List.mem_cons, List.not_mem_nil, or_false] at hmem
    omega
  · rw [decimalDigitRanges_contains_blankCodes _ hmem] at h
    cases h

/-- Nor the other way round. -/
theorem isDecimalDigit_of_isBlank (h : isBlank c = true) : isDecimalDigit c = false := by
  rw [Bool.eq_false_iff]
  intro hdigit
  rw [isBlank_of_isDecimalDigit hdigit] at h
  cases h

theorem isDecimalDigit_of_isAsciiDigit (h : isAsciiDigit c = true) :
    isDecimalDigit c = true := by
  rw [isDecimalDigit, if_pos, h]
  simp only [isAsciiDigit, Bool.and_eq_true, decide_eq_true_eq] at h
  omega

/-- Numbers are written in digits. -/
theorem isAsciiDigit_of_mem_toDigits {n : Nat} (h : c ∈ Nat.toDigits 10 n) :
    isAsciiDigit c = true :=
  Nat.isDigit_of_mem_toDigits (by decide) (by decide) h

end RecordFlow.Text
