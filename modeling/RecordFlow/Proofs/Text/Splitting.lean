import RecordFlow.Proofs.Text.Scanning

/-!
# Cutting a text into parts, and joining them

The parts of a text with the separator between neighbours are the text (`joinWith_splitOn`).
That holds for separators of any length, even for one that could be found at overlapping places:
whatever is cut off, what was there is put back.

A cut is made at the first occurrence (`cutAt?_append_of_first`), so that the parts of a text
are what stands between occurrences that are found from the left and do not overlap
(`partsOf_splitOn`, `PartsOf.splitOn_eq`).  No part of a text holds the separator
(`not_infix_of_mem_splitOn`).  The other way round, parts that do not hold a character are found
again where it stands between them (`splitOn_joinWith`).

## Main definitions

* `PartsOf` — the parts of a text at a separator.
-/

namespace RecordFlow.Text

variable {separator part a b s front back : List Char} {parts : List (List Char)} {c : Char}

/-! ### One cut -/

/-- A cut takes away the separator alone. -/
theorem eq_append_of_cutAt? (h : cutAt? separator s = some (a, b)) : s = a ++ (separator ++ b) := by
  induction s generalizing a with
  | nil =>
    obtain ⟨rest, hrest, heq⟩ := Option.map_eq_some_iff.1 h
    cases heq
    rw [List.nil_append, dropPrefix?_eq_some_iff.1 hrest]
  | cons c s ih =>
    rw [cutAt?] at h
    split at h
    · next rest hrest =>
      cases h
      rw [List.nil_append, dropPrefix?_eq_some_iff.1 hrest]
    · obtain ⟨⟨before, after⟩, hcut, heq⟩ := Option.map_eq_some_iff.1 h
      cases heq
      rw [List.cons_append, ← ih hcut]

/-- **A cut is made at the first occurrence:** no other one is before it. -/
theorem length_le_of_cutAt? (h : cutAt? separator s = some (a, b))
    (hs : s = front ++ (separator ++ back)) : a.length ≤ front.length := by
  induction s generalizing a front with
  | nil =>
    obtain ⟨rest, -, heq⟩ := Option.map_eq_some_iff.1 h
    cases heq
    exact Nat.zero_le _
  | cons c s ih =>
    rw [cutAt?] at h
    split at h
    · cases h
      exact Nat.zero_le _
    · next hnone =>
      obtain ⟨⟨before, after⟩, hcut, heq⟩ := Option.map_eq_some_iff.1 h
      cases heq
      cases front with
      | nil =>
        -- an occurrence at the front would have been the one that is cut at
        rw [List.nil_append] at hs
        rw [dropPrefix?_eq_some_iff.2 hs] at hnone
        cases hnone
      | cons d front => exact Nat.succ_le_succ (ih hcut (List.cons.inj hs).2)

/-- A text that is not cut does not hold the separator. -/
theorem not_infix_of_cutAt? (h : cutAt? separator s = none) : ¬ separator <:+: s := by
  induction s with
  | nil =>
    intro hwithin
    rw [List.infix_nil.1 hwithin] at h
    cases h
  | cons c s ih =>
    rw [cutAt?] at h
    split at h
    · cases h
    · next hnone =>
      rw [List.infix_cons_iff, not_or]
      refine ⟨?_, ih (Option.map_eq_none_iff.1 h)⟩
      rintro ⟨rest, hrest⟩
      rw [dropPrefix?_eq_some_iff.2 hrest.symm] at hnone
      cases hnone

/-- A text is cut where there is no occurrence before. -/
theorem cutAt?_append_of_first
    (hfirst : ∀ front back, a ++ (separator ++ b) = front ++ (separator ++ back) →
      a.length ≤ front.length) :
    cutAt? separator (a ++ (separator ++ b)) = some (a, b) := by
  cases hcut : cutAt? separator (a ++ (separator ++ b)) with
  | none => exact absurd ⟨a, b, List.append_assoc a separator b⟩ (not_infix_of_cutAt? hcut)
  | some cut =>
    obtain ⟨front, back⟩ := cut
    have htext := eq_append_of_cutAt? hcut
    have hlength : a.length = front.length :=
      (hfirst front back htext).antisymm (length_le_of_cutAt? hcut rfl)
    obtain ⟨rfl, hrest⟩ := List.append_inj htext hlength
    rw [List.append_cancel_left hrest]

/-! ### All parts -/

/-- **The parts of a text at a separator.**  Each part but the last ends where the separator
occurs for the first time from its beginning on, so that a text has its parts in one way
only. -/
inductive PartsOf (separator : List Char) : List Char → List (List Char) → Prop
  /-- A text without the separator is its only part. -/
  | whole {s : List Char} : ¬ separator <:+: s → PartsOf separator s [s]
  /-- What stands before the first occurrence of the separator is a part, and the others are
  those of what follows it. -/
  | cut {a b : List Char} {parts : List (List Char)} :
      (∀ front back, a ++ (separator ++ b) = front ++ (separator ++ back) →
        a.length ≤ front.length) →
      PartsOf separator b parts → PartsOf separator (a ++ (separator ++ b)) (a :: parts)

theorem partsOf_splitOn (hne : separator ≠ []) (s : List Char) :
    PartsOf separator s (splitOn separator s) := by
  have hsplit := splitOn.eq_def separator s
  rw [dif_neg hne] at hsplit
  rw [hsplit]
  split
  · next hnone => exact .whole (not_infix_of_cutAt? hnone)
  · next a b hcut =>
    have hlength := length_of_cutAt? hcut
    have hpos : 0 < separator.length := List.length_pos_iff.2 hne
    have hfirst (front back : List Char) (heq : s = front ++ (separator ++ back)) :
        a.length ≤ front.length := length_le_of_cutAt? hcut heq
    obtain rfl := eq_append_of_cutAt? hcut
    exact .cut hfirst (partsOf_splitOn hne b)
termination_by s.length

namespace PartsOf

theorem ne_nil (h : PartsOf separator s parts) : parts ≠ [] := by
  cases h with
  | whole => exact List.cons_ne_nil _ _
  | cut => exact List.cons_ne_nil _ _

/-- **A text has its parts in one way only.** -/
theorem splitOn_eq (hne : separator ≠ []) (h : PartsOf separator s parts) :
    splitOn separator s = parts := by
  induction h with
  | whole hwithin =>
    rw [splitOn, dif_neg hne, cutAt?_eq_none hwithin]
  | cut hfirst _ ih =>
    rw [splitOn, dif_neg hne, cutAt?_append_of_first hfirst]
    exact congrArg _ ih

end PartsOf

theorem joinWith_cons (hne : parts ≠ []) :
    joinWith separator (part :: parts) = part ++ (separator ++ joinWith separator parts) := by
  obtain ⟨next, rest, rfl⟩ := List.exists_cons_of_ne_nil hne
  rw [joinWith, List.append_assoc]

/-- What writes a list with a separator between neighbours joins what it writes for each. -/
theorem eq_joinWith_map {α : Type} {write : List α → List Char} {piece : α → List Char}
    (nil : write [] = []) (one : ∀ x, write [x] = piece x)
    (more : ∀ x y rest, write (x :: y :: rest) = piece x ++ (separator ++ write (y :: rest)))
    (xs : List α) : write xs = joinWith separator (xs.map piece) := by
  induction xs with
  | nil => exact nil
  | cons x xs ih =>
    cases xs with
    | nil => exact one x
    | cons y rest =>
      rw [more, ih]
      exact (joinWith_cons (List.cons_ne_nil _ _)).symm

/-- **Joining the parts of a text gives the text.** -/
theorem PartsOf.joinWith_eq (h : PartsOf separator s parts) : joinWith separator parts = s := by
  induction h with
  | whole _ => rw [joinWith]
  | cut _ hparts ih => rw [joinWith_cons hparts.ne_nil, ih]

/-- **No part of a text holds the separator.** -/
theorem PartsOf.not_infix_of_mem (hne : separator ≠ []) (h : PartsOf separator s parts)
    (hpart : part ∈ parts) : ¬ separator <:+: part := by
  induction h with
  | whole hwithin => rwa [List.mem_singleton.1 hpart]
  | @cut a b _ hfirst _ ih =>
    rcases List.mem_cons.1 hpart with rfl | hpart
    · -- an occurrence within the first part would be before the one that is cut at
      rintro ⟨front, back, rfl⟩
      have hle := hfirst front (back ++ (separator ++ b)) (by simp only [List.append_assoc])
      have hpos := List.length_pos_iff.2 hne
      simp only [List.length_append] at hle
      omega
    · exact ih hpart

theorem joinWith_splitOn (hne : separator ≠ []) (s : List Char) :
    joinWith separator (splitOn separator s) = s :=
  (partsOf_splitOn hne s).joinWith_eq

theorem not_infix_of_mem_splitOn (hne : separator ≠ []) (h : part ∈ splitOn separator s) :
    ¬ separator <:+: part :=
  (partsOf_splitOn hne s).not_infix_of_mem hne h

/-- **Parts without a character are found again** where the character stands between them. -/
theorem splitOn_joinWith (hne : parts ≠ []) (h : ∀ part ∈ parts, c ∉ part) :
    splitOn [c] (joinWith [c] parts) = parts := by
  induction parts with
  | nil => exact absurd rfl hne
  | cons part parts ih =>
    obtain ⟨hpart, hparts⟩ := List.forall_mem_cons.1 h
    rcases eq_or_ne parts [] with rfl | hmore
    · exact splitOn_singleton_of_notMem hpart
    · rw [joinWith_cons hmore, List.singleton_append, splitOn_singleton_append, ih hmore hparts,
        splitOn_singleton_of_notMem hpart, List.singleton_append]

/-- Without a separator the parts stand next to each other. -/
theorem joinWith_nil (parts : List (List Char)) : joinWith [] parts = parts.flatten := by
  induction parts with
  | nil => rfl
  | cons part parts ih =>
    cases parts with
    | nil => simp [joinWith]
    | cons next rest => rw [joinWith_cons (List.cons_ne_nil next rest), ih]; rfl

/-- The characters of a text, joined. -/
theorem joinWith_nil_singletons (s : List Char) : joinWith [] (s.map ([·])) = s := by
  rw [joinWith_nil, ← List.flatMap_def, List.flatMap_singleton']

end RecordFlow.Text
