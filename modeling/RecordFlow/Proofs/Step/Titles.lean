import RecordFlow.Proofs.Step.Slugs
import RecordFlow.Proofs.Text.CaseImages

/-!
# Titles, word by word

A text is capitalized in one pass that carries the word that is being read (`TitlePass`).  White
space ends the word: it is written with its capital, and the white space after it.  At the end
of the text the last word is written.  What the pass has written and has still to write is the
title of what it has read and has still to read (`finish_foldl`), and so the titles of two texts
with white space between them stand next to each other (`titleCase_append`).

What comes out has the words of the text, each of them with its capital, between the same white
space (`WordsOf.titleCase`).  No word becomes two and none is lost, since case mappings neither
make white space nor take characters away.

## Main definitions

* `Wording.TitlePass` — what has been written of a title, and the word being read.
* `Wording.WordsOf` — the words of a text, with the white space between them.
-/

namespace RecordFlow

theorem Value.mapText_text (f : List Char → List Char) (s : List Char) :
    (text s).mapText f = text (f s) :=
  congrArg (fun cs => text (f cs)) String.toList_ofList

namespace Wording

open Text

variable {s t word blanks : List Char} {c : Char} {words : List (List Char)}

/-! ### Single words -/

theorem titleCase_of_forall (h : ∀ c ∈ s, isBlank c = false) : titleCase s = capitalize s := by
  have hword : ∀ c ∈ s, (!isBlank c) = true := by simpa using h
  rw [titleCase.eq_def, List.takeWhile_eq_self_iff.2 hword]
  split
  · exact List.append_nil _
  · next hcons =>
    rw [List.dropWhile_eq_nil_iff.2 hword] at hcons
    cases hcons

/-- White space ends the first word. -/
theorem titleCase_append_cons (hword : ∀ c ∈ word, isBlank c = false) (hc : isBlank c = true)
    (s : List Char) : titleCase (word ++ c :: s) = capitalize word ++ c :: titleCase s := by
  have hspan := span_append (p := fun c => !isBlank c) (a := word) (b := c :: s) ?_ ?_
  · rw [titleCase.eq_def, hspan.1]
    split
    · next hnil =>
      rw [hspan.2] at hnil
      cases hnil
    · next hcons =>
      rw [hspan.2] at hcons
      cases hcons
      rfl
  · simpa using hword
  · simpa using hc

/-! ### The pass -/

/-- **What has been read of a text:** the title of what stands before the word being read, and
that word, which has no white space in it. -/
structure TitlePass where
  /-- What has been written. -/
  written : List Char
  /-- The characters of the present word. -/
  word : List Char
  /-- The present word has not come to its end. -/
  isBlank_of_mem : ∀ c ∈ word, isBlank c = false

namespace TitlePass

/-- Nothing has been read. -/
def start : TitlePass :=
  ⟨[], [], List.forall_mem_nil _⟩

/-- The end of the present word: it is written with its capital. -/
def finish (p : TitlePass) : List Char :=
  p.written ++ capitalize p.word

/-- **One character of the text.**  White space ends the word that is being read, and any other
character goes on with it. -/
def step (p : TitlePass) (c : Char) : TitlePass :=
  if h : isBlank c = true then ⟨p.finish ++ [c], [], List.forall_mem_nil _⟩
  else ⟨p.written, p.word ++ [c], by simpa [or_imp, forall_and, h] using p.isBlank_of_mem⟩

variable (p : TitlePass)

/-- **A step leaves the title as it is** that the pass comes to. -/
theorem step_title (c : Char) (s : List Char) :
    (p.step c).written ++ titleCase ((p.step c).word ++ s) =
      p.written ++ titleCase (p.word ++ c :: s) := by
  rw [step]
  split
  · next hblank =>
    rw [titleCase_append_cons p.isBlank_of_mem hblank, List.nil_append, finish]
    simp only [List.append_assoc, List.singleton_append]
  · rw [List.append_assoc, List.singleton_append]

/-- **The whole pass writes the title.** -/
theorem finish_foldl (s : List Char) :
    (s.foldl step p).finish = p.written ++ titleCase (p.word ++ s) := by
  -- along the text, from every state: the word that is being read grows on the way
  induction s generalizing p with
  | nil => rw [List.append_nil, titleCase_of_forall p.isBlank_of_mem, List.foldl_nil, finish]
  | cons c s ih => rw [List.foldl_cons, ih, step_title]

theorem finish_foldl_start (s : List Char) : (s.foldl step start).finish = titleCase s :=
  finish_foldl start s

end TitlePass

/-- **White space parts a title in two.** -/
theorem titleCase_append (hc : isBlank c = true) (a b : List Char) :
    titleCase (a ++ c :: b) = titleCase a ++ c :: titleCase b := by
  let before := a.foldl TitlePass.step .start
  -- the white space writes what the end of `a` would have written
  have hflush : before.step c = ⟨before.finish ++ [c], [], List.forall_mem_nil _⟩ := dif_pos hc
  calc titleCase (a ++ c :: b)
      = (b.foldl TitlePass.step (before.step c)).finish := by
        rw [← TitlePass.finish_foldl_start, List.foldl_append, List.foldl_cons]
    _ = before.finish ++ [c] ++ titleCase b := by
        rw [TitlePass.finish_foldl, hflush, List.nil_append]
    _ = titleCase a ++ c :: titleCase b := by
        rw [TitlePass.finish_foldl_start, List.append_assoc, List.singleton_append]

/-! ### All words -/

/-- **The words of a text, and the white space between them.**  Each character of white space
has a word before it and one after it, which may be empty. -/
inductive WordsOf : List (List Char) → List Char → List Char → Prop
  /-- A text without white space is its only word. -/
  | last {word : List Char} : (∀ c ∈ word, isBlank c = false) → WordsOf [word] [] word
  /-- The first word ends where the first white space is. -/
  | next {word rest blanks : List Char} {c : Char} {words : List (List Char)} :
      (∀ c ∈ word, isBlank c = false) → isBlank c = true → WordsOf words blanks rest →
      WordsOf (word :: words) (c :: blanks) (word ++ c :: rest)

/-- Every text has words. -/
theorem exists_wordsOf (s : List Char) : ∃ words blanks, WordsOf words blanks s := by
  have hempty : ∀ c ∈ [], isBlank c = false := List.forall_mem_nil _
  induction s with
  | nil => exact ⟨_, _, .last hempty⟩
  | cons c s ih =>
    obtain ⟨words, blanks, hs⟩ := ih
    cases hc : isBlank c with
    | true =>
      have hnext := WordsOf.next hempty hc hs
      exact ⟨_, _, hnext⟩
    | false =>
      -- the character goes in front of the first word
      cases hs with
      | last hword => exact ⟨_, _, .last (List.forall_mem_cons.2 ⟨hc, hword⟩)⟩
      | next hword hblank hrest =>
        exact ⟨_, _, .next (List.forall_mem_cons.2 ⟨hc, hword⟩) hblank hrest⟩

theorem isBlank_of_mem_capitalize (hword : ∀ c ∈ word, isBlank c = false) :
    ∀ c ∈ capitalize word, isBlank c = false := by
  cases word with
  | nil => exact hword
  | cons first rest =>
    obtain ⟨hfirst, hrest⟩ := List.forall_mem_cons.1 hword
    intro d hd
    rcases List.mem_append.1 hd with hd | hd
    · exact isBlank_of_mem_upperChar hfirst hd
    · obtain ⟨c, hc, hd⟩ := List.mem_flatMap.1 hd
      exact isBlank_of_mem_lowerChar (hrest c hc) hd

/-- No word vanishes where it gets its capital. -/
theorem capitalize_eq_nil_iff : capitalize word = [] ↔ word = [] := by
  cases word with
  | nil => exact iff_of_true rfl rfl
  | cons first rest =>
    have hne : capitalize (first :: rest) ≠ [] :=
      List.append_ne_nil_of_left_ne_nil (upperChar_ne_nil first) _
    exact iff_of_false hne (List.cons_ne_nil _ _)

namespace WordsOf

/-- A text is made of its words and its white space in one way. -/
theorem text_unique (hs : WordsOf words blanks s) (ht : WordsOf words blanks t) : s = t := by
  induction hs generalizing t with
  | last _ =>
    cases ht with
    | last _ => rfl
  | next _ _ _ ih =>
    cases ht with
    | next _ _ hrest => rw [ih hrest]

/-- **The title of a text has its words with capitals, between the same white space.** -/
theorem titleCase (h : WordsOf words blanks s) :
    WordsOf (words.map capitalize) blanks (titleCase s) := by
  induction h with
  | last hword =>
    rw [titleCase_of_forall hword]
    exact .last (isBlank_of_mem_capitalize hword)
  | next hword hc _ ih =>
    rw [titleCase_append_cons hword hc]
    exact .next (isBlank_of_mem_capitalize hword) hc ih

end WordsOf

end Wording

namespace Step

open Text Wording

theorem titleCase_text (s : List Char) : titleCase (.text s) = .text (Wording.titleCase s) :=
  Value.mapText_text _ s

theorem sentenceCase_text (s : List Char) : sentenceCase (.text s) = .text (capitalize s) :=
  Value.mapText_text _ s

/-- **A title is made word by word.**  White space parts a title in two, and where there is
none, the title is the text with its first character in upper case and the rest in lower case.
So a text is the title of another one just if it has the words of that one with their capitals,
between the same white space; and none of these words has vanished. -/
theorem titleCase_words :
    (∀ (a b : List Char) (c : Char), isBlank c = true →
      ∃ a' b', titleCase (.text a) = .text a' ∧ titleCase (.text b) = .text b' ∧
        titleCase (.text (a ++ c :: b)) = .text (a' ++ c :: b')) ∧
    (∀ s, (∀ c ∈ s, isBlank c = false) → titleCase (.text s) = sentenceCase (.text s)) ∧
    ∀ s, (∃ words blanks, WordsOf words blanks s) ∧
      ∀ words blanks, WordsOf words blanks s →
        (∀ t, titleCase (.text s) = .text t ↔ WordsOf (words.map capitalize) blanks t) ∧
        ∀ word ∈ words, capitalize word = [] ↔ word = [] := by
  refine ⟨fun a b c hc => ?_, fun s hs => ?_, fun s => ⟨exists_wordsOf s, ?_⟩⟩
  · refine ⟨_, _, titleCase_text a, titleCase_text b, ?_⟩
    rw [titleCase_text, titleCase_append hc]
  · rw [titleCase_text, titleCase_of_forall hs, sentenceCase_text]
  · intro words blanks hwords
    refine ⟨fun t => ?_, fun word _ => capitalize_eq_nil_iff⟩
    rw [titleCase_text, Value.text_inj]
    constructor
    · rintro rfl
      exact hwords.titleCase
    · exact hwords.titleCase.text_unique

/-- Two words with an empty one between them, and white space of two kinds. -/
theorem titleCase_words_greeting :
    isBlank '\u3000' = true ∧
      titleCase (.text ("hELLO".toList ++ ' ' :: '\u3000' :: "wORLD".toList)) =
        .text ("Hello".toList ++ ' ' :: '\u3000' :: "World".toList) ∧
      titleCase (.text "wORLD".toList) = sentenceCase (.text "wORLD".toList) := by
  obtain ⟨-, hsingle, hall⟩ := titleCase_words
  have hspace : isBlank ' ' = true := rfl
  have hwide : isBlank '\u3000' = true := rfl
  have hempty : ∀ c ∈ [], isBlank c = false := List.forall_mem_nil _
  have hhello : ∀ c ∈ "hELLO".toList, isBlank c = false := by simp [isBlank]
  have hworld : ∀ c ∈ "wORLD".toList, isBlank c = false := by simp [isBlank]
  have hgreeting : WordsOf ["hELLO".toList, [], "wORLD".toList] [' ', '\u3000']
      ("hELLO".toList ++ ' ' :: '\u3000' :: "wORLD".toList) :=
    .next hhello hspace (.next hempty hwide (.last hworld))
  refine ⟨hwide, (((hall _).2 _ _ hgreeting).1 _).2 ?_, hsingle _ hworld⟩
  exact .next (isBlank_of_mem_capitalize hhello) hspace
    (.next (isBlank_of_mem_capitalize hempty) hwide (.last (isBlank_of_mem_capitalize hworld)))

end Step

end RecordFlow
