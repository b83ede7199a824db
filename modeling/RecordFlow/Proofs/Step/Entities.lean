import RecordFlow.Proofs.Step.Markup

/-!
# Entities in place of special characters

A text whose special characters are written as entities has none of them left, but for the
ampersands that the entities begin with, and it can be read back (`Step.unescape_escapeHtml`).

The text may have held entities before, or parts of them.  That does no harm, since their
ampersands are written as entities too.  So every ampersand of the result begins an entity that
was written (`exists_entity_of_escape_eq`), and one pass from left to right meets the characters
of the text one after the other (`unescape_entity_append`).

## Main definitions

* `Entity`, `entities` — the five entities, each with the character that it stands for.
* `unescape` — a text with its entities replaced by their characters.
-/

namespace RecordFlow.Markup

/-- **An entity:** a text that stands for a character, so that the character itself need not be
written. -/
structure Entity where
  /-- The text. -/
  text : List Char
  /-- The character. -/
  char : Char
deriving DecidableEq

/-- **The five entities.** -/
def entities : List Entity :=
  [⟨"&amp;".toList, '&'⟩, ⟨"&lt;".toList, '<'⟩, ⟨"&gt;".toList, '>'⟩, ⟨"&quot;".toList, '"'⟩,
    ⟨"&#39;".toList, '\''⟩]

variable {e : Entity} {c : Char} {before rest s : List Char}

/-- The character of the entity that a text begins with, and what follows the entity. -/
def dropEntity? (s : List Char) : Option (Char × List Char) :=
  entities.findSome? fun e => (Text.dropPrefix? e.text s).map (e.char, ·)

/-- An entity begins with an ampersand, and no special character follows in it. -/
theorem text_eq_cons : ∀ e ∈ entities,
    e.text = '&' :: e.text.tail ∧ ∀ other ∈ entities, other.char ∉ e.text.tail := by
  decide

/-- The entity that is dropped is one of the five, and begins the text. -/
theorem exists_of_dropEntity? (h : dropEntity? s = some (c, rest)) :
    ∃ e ∈ entities, e.char = c ∧ s = e.text ++ rest := by
  obtain ⟨e, he, h⟩ := List.exists_of_findSome?_eq_some h
  obtain ⟨r, hr, h⟩ := Option.map_eq_some_iff.1 h
  cases h
  exact ⟨e, he, rfl, Text.dropPrefix?_eq_some_iff.1 hr⟩

/-- An entity that is dropped makes the text shorter. -/
theorem length_of_dropEntity? (h : dropEntity? s = some (c, rest)) : rest.length < s.length := by
  obtain ⟨e, he, -, rfl⟩ := exists_of_dropEntity? h
  rw [(text_eq_cons e he).1, List.length_append, List.length_cons]
  omega

/-- **A text with its entities replaced** by the characters that they stand for, in one pass
from left to right. -/
def unescape (s : List Char) : List Char :=
  match s with
  | [] => []
  | c :: s =>
    match _found : dropEntity? (c :: s) with
    | some (d, rest) => d :: unescape rest
    | none => c :: unescape s
termination_by s.length
decreasing_by
  · exact length_of_dropEntity? _found
  · simp

/-! ### What is written for a character -/

/-- The ampersand has an entity too. -/
theorem ampersand_mem_entities : ⟨"&amp;".toList, '&'⟩ ∈ entities :=
  List.mem_cons_self

/-- **A character has an entity, or is written as it is.** -/
theorem entity_cases (c : Char) :
    (∃ e ∈ entities, e.char = c ∧ entity c = e.text) ∨
      (∀ e ∈ entities, e.char ≠ c) ∧ entity c = [c] := by
  have hwritten : ∀ e ∈ entities, entity e.char = e.text := by decide
  by_cases hc : ∃ e ∈ entities, e.char = c
  · obtain ⟨e, he, rfl⟩ := hc
    exact Or.inl ⟨e, he, rfl, hwritten e he⟩
  · have hne : ∀ e ∈ entities, e.char ≠ c := fun e he heq => hc ⟨e, he, heq⟩
    refine Or.inr ⟨hne, ?_⟩
    simp only [entities, List.forall_mem_cons] at hne
    obtain ⟨hamp, hlt, hgt, hdouble, hsingle, -⟩ := hne
    have hquote : c.toNat ≠ 0x27 := fun hcode => hsingle (Char.toNat_inj.1 hcode.symm)
    simp [entity, hamp.symm, hlt.symm, hgt.symm, hdouble.symm, hquote]

/-- No special character but the ampersand is left. -/
theorem notMem_escape (he : e ∈ entities) (hne : e.char ≠ '&') (s : List Char) :
    e.char ∉ escape s := by
  intro hmem
  obtain ⟨c, -, hc⟩ := List.mem_flatMap.1 hmem
  rcases entity_cases c with ⟨written, hwritten, -, hentity⟩ | ⟨hother, hentity⟩
  · obtain ⟨hcons, htail⟩ := text_eq_cons written hwritten
    rw [hentity, hcons] at hc
    rcases List.mem_cons.1 hc with heq | hc
    · exact hne heq
    · exact htail e he hc
  · rw [hentity, List.mem_singleton] at hc
    exact hother e he hc

/-- **An ampersand of the result begins an entity.** -/
theorem exists_entity_of_escape_eq (h : escape s = before ++ '&' :: rest) :
    ∃ e ∈ entities, e.text <+: '&' :: rest := by
  induction s generalizing before with
  | nil => exact absurd h.symm (List.append_ne_nil_of_right_ne_nil before (List.cons_ne_nil _ _))
  | cons c s ih =>
    rw [escape, List.flatMap_cons, ← escape] at h
    rcases List.append_eq_append_iff.1 h with ⟨z, -, hrest⟩ | ⟨z, hc, hrest⟩
    · exact ih hrest
    · cases z with
      | nil => exact @ih [] hrest.symm
      | cons d z =>
        -- the ampersand stands in what was written for the first character
        rw [List.cons_append, List.cons.injEq] at hrest
        obtain ⟨rfl, rfl⟩ := hrest
        rcases entity_cases c with ⟨e, he, -, hentity⟩ | ⟨hother, hentity⟩
        · refine ⟨e, he, escape s, ?_⟩
          rw [hentity] at hc
          obtain ⟨hcons, htail⟩ := text_eq_cons e he
          cases before with
          | nil => rw [hc, List.nil_append, List.cons_append]
          | cons b before =>
            rw [hcons, List.cons_append, List.cons.injEq] at hc
            refine absurd ?_ (htail _ ampersand_mem_entities)
            rw [hc.2]
            exact List.mem_append_right before List.mem_cons_self
        · have hmem : '&' ∈ entity c := by
            rw [hc]
            exact List.mem_append_right before List.mem_cons_self
          rw [hentity, List.mem_singleton] at hmem
          exact absurd hmem (hother _ ampersand_mem_entities)

/-! ### Reading back -/

theorem unescape_of_dropEntity? (h : dropEntity? s = some (c, rest)) :
    unescape s = c :: unescape rest := by
  cases s with
  | nil => cases h
  | cons d s =>
    rw [unescape]
    split
    · next found =>
      rw [h] at found
      cases found
      rfl
    · next found =>
      rw [h] at found
      cases found

/-- What begins with no ampersand begins with no entity. -/
theorem unescape_cons (hc : c ≠ '&') (s : List Char) : unescape (c :: s) = c :: unescape s := by
  rw [unescape]
  split
  · next found =>
    obtain ⟨e, he, -, hs⟩ := exists_of_dropEntity? found
    rw [(text_eq_cons e he).1, List.cons_append, List.cons.injEq] at hs
    exact absurd hs.1 hc
  · rfl

/-- An entity is found where it stands: none of the others begins like it. -/
theorem dropEntity?_append (he : e ∈ entities) (s : List Char) :
    dropEntity? (e.text ++ s) = some (e.char, s) := by
  simp only [entities, List.mem_cons, List.not_mem_nil, or_false] at he
  rcases he with rfl | rfl | rfl | rfl | rfl <;> rfl

/-- **What is written for a character is read as this character,** whatever follows it. -/
theorem unescape_entity_append (c : Char) (s : List Char) :
    unescape (entity c ++ s) = c :: unescape s := by
  rcases entity_cases c with ⟨e, he, rfl, hentity⟩ | ⟨hother, hentity⟩
  · rw [hentity]
    exact unescape_of_dropEntity? (dropEntity?_append he s)
  · rw [hentity, List.singleton_append]
    exact unescape_cons (hother _ ampersand_mem_entities).symm s

theorem unescape_escape (s : List Char) : unescape (escape s) = s := by
  induction s with
  | nil => rw [escape, List.flatMap_nil, unescape]
  | cons c s ih => rw [escape, List.flatMap_cons, ← escape, unescape_entity_append, ih]

/-- **Different texts are written differently.** -/
theorem escape_injective : Function.Injective escape :=
  Function.LeftInverse.injective unescape_escape

/-- A text without brackets has no tags. -/
theorem isTagFree_escape (s : List Char) : IsTagFree (escape s) := by
  rintro before rest hsplit -
  have hopen : '<' ∉ escape s := notMem_escape (e := ⟨"&lt;".toList, '<'⟩) (by decide) (by decide) s
  rw [hsplit] at hopen
  exact hopen (List.mem_append_right before List.mem_cons_self)

end RecordFlow.Markup

namespace RecordFlow.Step

open Markup

/-- **What the step writes for a string is safe and can be read back.**  There is no bracket and
no quote in it, each ampersand begins one of the five entities, and one pass over these gives
the string.  So no other string is written in the same way, and there is no tag to take out. -/
theorem unescape_escapeHtml (s : String) :
    ∃ t : String, escapeHtml (.str s) = .str t ∧
      (∀ c ∈ ['<', '>', '"', '\''], c ∉ t.toList) ∧
      (∀ before rest, t.toList = before ++ '&' :: rest →
        ∃ e ∈ entities, e.text <+: '&' :: rest) ∧
      unescape t.toList = s.toList ∧
      (∀ s' : String, escapeHtml (.str s') = .str t → s' = s) ∧
      stripHtml (.str t) = .str t := by
  have hlist : (String.ofList (escape s.toList)).toList = escape s.toList := String.toList_ofList
  refine ⟨String.ofList (escape s.toList), rfl, ?_, ?_, ?_, ?_, ?_⟩
  · have hspecial : ∀ c ∈ ['<', '>', '"', '\''], ∃ e ∈ entities, e.char = c ∧ e.char ≠ '&' := by
      simp [entities]
    intro c hc
    obtain ⟨e, he, rfl, hne⟩ := hspecial c hc
    rw [hlist]
    exact notMem_escape he hne s.toList
  · intro before rest hsplit
    rw [hlist] at hsplit
    exact exists_entity_of_escape_eq hsplit
  · rw [hlist, unescape_escape]
  · intro s' heq
    have hescape : escape s'.toList = escape s.toList :=
      String.ofList_injective (Value.str.inj heq)
    exact String.toList_injective (escape_injective hescape)
  · show Value.text (stripTags (String.ofList (escape s.toList)).toList) = _
    rw [hlist, stripTags_of_isTagFree (isTagFree_escape s.toList)]
    rfl

end RecordFlow.Step
