import RecordFlow.Proofs.Text.Scanning
import RecordFlow.Step.Markup

/-!
# Texts without tags

A text from which the tags are taken has none left (`isTagFree_stripTags`), and a text without
tags is left alone (`stripTags_of_isTagFree`).  Nothing is put in the place of a tag
(`sublist_stripTags`).

A tag begins with an opening bracket and ends with the next closing one.  So a text is free of
tags just when no closing bracket follows an opening one.  What is cut off at the front of a tag
has no opening bracket in it, and cannot be put together with what follows the tag into a new
one.

## Main definitions

* `IsTagFree` — no closing bracket follows an opening one.
-/

namespace RecordFlow.Markup

variable {before tag s : List Char}

/-- **A text without tags:** no closing bracket follows an opening one.  What stands between two
brackets does not matter, as a reader of markup may take anything there for a tag. -/
def IsTagFree (s : List Char) : Prop :=
  ∀ before rest, s = before ++ '<' :: rest → '>' ∉ rest

/-! ### One tag at a time -/

theorem stripTags_of_notMem (h : '<' ∉ s) : stripTags s = s := by
  rw [stripTags]
  split
  · rfl
  · next opened =>
    rw [Text.cutAt?_singleton_of_notMem h] at opened
    cases opened

/-- A bracket that is not closed stays. -/
theorem stripTags_open (hbefore : '<' ∉ before) (h : '>' ∉ s) :
    stripTags (before ++ '<' :: s) = before ++ '<' :: s := by
  rw [stripTags]
  split
  · rfl
  · next opened =>
    rw [Text.cutAt?_singleton_append hbefore] at opened
    cases opened
    split
    · rfl
    · next closed =>
      rw [Text.cutAt?_singleton_of_notMem h] at closed
      cases closed

/-- A tag is taken out. -/
theorem stripTags_tag (hbefore : '<' ∉ before) (htag : '>' ∉ tag) (s : List Char) :
    stripTags (before ++ '<' :: (tag ++ '>' :: s)) = before ++ stripTags s := by
  rw [stripTags]
  split
  · next opened =>
    rw [Text.cutAt?_singleton_append hbefore] at opened
    cases opened
  · next opened =>
    rw [Text.cutAt?_singleton_append hbefore] at opened
    cases opened
    split
    · next closed =>
      rw [Text.cutAt?_singleton_append htag] at closed
      cases closed
    · next closed =>
      rw [Text.cutAt?_singleton_append htag] at closed
      cases closed
      rfl

/-- **Induction along the tags of a text:** a text without an opening bracket, one whose first
opening bracket is not closed, and one that begins with a tag behind other text. -/
theorem tag_induction {motive : List Char → Prop} (none : ∀ s, '<' ∉ s → motive s)
    (opening : ∀ before s, '<' ∉ before → '>' ∉ s → motive (before ++ '<' :: s))
    (tag : ∀ before tag s, '<' ∉ before → '>' ∉ tag → motive s →
      motive (before ++ '<' :: (tag ++ '>' :: s)))
    (s : List Char) : motive s := by
  induction hlength : s.length using Nat.strong_induction_on generalizing s with
  | _ length ih =>
    by_cases hopen : '<' ∈ s
    -- both brackets are taken at their first occurrence, as a tag is cut out
    · obtain ⟨before, rest, rfl, hbefore⟩ := List.eq_append_cons_of_mem hopen
      by_cases hclose : '>' ∈ rest
      · obtain ⟨inside, after, rfl, hinside⟩ := List.eq_append_cons_of_mem hclose
        refine tag before inside after hbefore hinside (ih after.length ?_ after rfl)
        simp only [List.length_append, List.length_cons] at hlength
        omega
      · exact opening before rest hbefore hclose
    · exact none s hopen

/-! ### No tag is left -/

/-- Text without an opening bracket makes no tag with what follows it. -/
theorem IsTagFree.append (hbefore : '<' ∉ before) (h : IsTagFree s) : IsTagFree (before ++ s) := by
  intro front rest hsplit
  rcases List.append_eq_append_iff.1 hsplit with ⟨z, -, hs⟩ | ⟨z, hfront, hrest⟩
  · exact h z rest hs
  · cases z with
    | nil => exact h [] rest hrest.symm
    | cons c z =>
      rw [List.cons_append, List.cons.injEq] at hrest
      rw [hfront, ← hrest.1] at hbefore
      exact absurd (List.mem_append_right front List.mem_cons_self) hbefore

/-- **No tag is left** in a text from which the tags are taken. -/
theorem isTagFree_stripTags (s : List Char) : IsTagFree (stripTags s) := by
  induction s using tag_induction with
  | none s hs =>
    rw [stripTags_of_notMem hs]
    rintro before rest rfl
    exact absurd (List.mem_append_right before List.mem_cons_self) hs
  | opening before s hbefore hs =>
    rw [stripTags_open hbefore hs]
    refine IsTagFree.append hbefore ?_
    intro front rest hsplit hclose
    have hmem : '>' ∈ '<' :: s := by
      rw [hsplit]
      exact List.mem_append_right front (List.mem_cons_of_mem '<' hclose)
    rcases List.mem_cons.1 hmem with hbracket | hmem
    · exact absurd hbracket (by decide)
    · exact hs hmem
  | tag before tag s hbefore htag ih =>
    rw [stripTags_tag hbefore htag]
    exact ih.append hbefore

/-- **A text without tags is left alone.** -/
theorem stripTags_of_isTagFree (h : IsTagFree s) : stripTags s = s := by
  by_cases hopen : '<' ∈ s
  · obtain ⟨before, rest, rfl, hbefore⟩ := List.eq_append_cons_of_mem hopen
    exact stripTags_open hbefore (h before rest rfl)
  · exact stripTags_of_notMem hopen

/-- **Nothing is put in:** what is left when the tags are taken out stood in the text, in the
same order. -/
theorem sublist_stripTags (s : List Char) : (stripTags s).Sublist s := by
  induction s using tag_induction with
  | none s hs =>
    simp [stripTags_of_notMem hs]
  | opening before s hbefore hs =>
    simp [stripTags_open hbefore hs]
  | tag before tag s hbefore htag ih =>
    rw [stripTags_tag hbefore htag]
    have htail : s.Sublist ('<' :: (tag ++ '>' :: s)) := by
      have hclosed : s.Sublist ('>' :: s) := List.sublist_cons_self '>' s
      exact (hclosed.trans (List.sublist_append_right tag _)).cons '<'
    exact (List.Sublist.refl before).append (ih.trans htail)

/-- Tags are taken out once. -/
theorem stripTags_stripTags (s : List Char) : stripTags (stripTags s) = stripTags s :=
  stripTags_of_isTagFree (isTagFree_stripTags s)

end RecordFlow.Markup

namespace RecordFlow.Step

open Markup

/-- **The step takes the tags out of a string, and only them:** what is left has no tag in it,
not even one put together from what stood around another, it is a part of the string in the same
order, and it is the string if that has no tag.

No reading of markup is assumed: the brackets alone say what a tag is, and so nothing that any
reader would take for a tag is left. -/
theorem isTagFree_stripHtml (s : String) :
    ∃ t : String, stripHtml (.str s) = .str t ∧ IsTagFree t.toList ∧ t.toList.Sublist s.toList ∧
      (IsTagFree s.toList → t = s) := by
  refine ⟨String.ofList (stripTags s.toList), rfl, ?_, ?_, ?_⟩
  · rw [String.toList_ofList]
    exact isTagFree_stripTags s.toList
  · rw [String.toList_ofList]
    exact sublist_stripTags s.toList
  · intro hfree
    rw [stripTags_of_isTagFree hfree, String.ofList_toList]

end RecordFlow.Step
