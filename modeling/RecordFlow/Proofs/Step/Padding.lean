import RecordFlow.Proofs.Step.Normalizing

/-!
# Padded texts

A text is padded with the characters of another one, over and over, until it has its length
(`exists_padding`).  What is over and over is said by positions: the character at a position is
that at the remainder of the position by the length of what is repeated (`IsRepeated`).  With
its length this determines the padding (`isRepeated_iff`), so that nothing is left open of the
text that comes out: its length, the characters that are added and the side that they are added
on (`Step.pad_text`).  A text that is long enough already, or cannot be padded, stays as it is.

## Main definitions

* `Wording.IsRepeated` — characters of a text, over and over.
-/

namespace RecordFlow

namespace Wording

variable {length count i : ℕ} {filler padding s : List Char}

/-! ### The characters that are added -/

/-- **The characters of a text, over and over,** the last time perhaps not all of them.  It is
told by positions, so that it does not matter how many whole copies there are. -/
def IsRepeated (filler padding : List Char) : Prop :=
  ∀ i < padding.length, padding[i]? = filler[i % filler.length]?

theorem getElem?_flatten_replicate (h : i < count * filler.length) :
    (List.replicate count filler).flatten[i]? = filler[i % filler.length]? := by
  induction count generalizing i with
  | zero =>
    rw [Nat.zero_mul] at h
    exact absurd h (Nat.not_lt_zero i)
  | succ count ih =>
    rw [Nat.succ_mul] at h
    rw [List.replicate_succ, List.flatten_cons]
    rcases Nat.lt_or_ge i filler.length with hfirst | hlater
    · rw [List.getElem?_append_left hfirst, Nat.mod_eq_of_lt hfirst]
    · rw [List.getElem?_append_right hlater, ih (by omega), Nat.mod_eq_sub_mod hlater]

theorem isRepeated_cycled (hne : filler ≠ []) (count : ℕ) :
    IsRepeated filler (cycled filler count) := by
  intro i hi
  rw [length_cycled hne] at hi
  have henough : count < (count / filler.length + 1) * filler.length := by
    rw [Nat.mul_comm]
    exact Nat.lt_mul_div_succ count (List.length_pos_iff.2 hne)
  rw [cycled, List.getElem?_take_of_lt hi, getElem?_flatten_replicate (hi.trans henough)]

/-- **There is one padding of each length.** -/
theorem isRepeated_iff (hne : filler ≠ []) :
    IsRepeated filler padding ↔ padding = cycled filler padding.length := by
  constructor
  · intro h
    have hlength := length_cycled hne padding.length
    refine List.ext_getElem? fun i => ?_
    rcases Nat.lt_or_ge i padding.length with hi | hi
    · rw [h i hi, isRepeated_cycled hne padding.length i (by rwa [hlength])]
    · rw [List.getElem?_eq_none hi, List.getElem?_eq_none (by rwa [hlength])]
  · intro h
    rw [h]
    exact isRepeated_cycled hne padding.length

/-- **A text that is padded gets characters of the filling** on its side. -/
theorem exists_padding (h : ¬ IsPadded length filler s) :
    ∃ padding, IsRepeated filler padding ∧
      pad length filler .start s = padding ++ s ∧ pad length filler .finish s = s ++ padding := by
  have hne : filler ≠ [] := fun hnil => h (Or.inr (Or.inl hnil))
  exact ⟨cycled filler (length - s.length), isRepeated_cycled hne _, pad_of_not_isPadded h .start,
    pad_of_not_isPadded h .finish⟩

end Wording

namespace Step

open Wording

variable {v : Value} {side : Option PadSide}

/-- The padding is in front where no other side is set. -/
theorem padSide_of_ne (h : side ≠ some .finish) : side.getD .start = .start := by
  cases side with
  | none => rfl
  | some side =>
    cases side with
    | start => rfl
    | finish => exact absurd rfl h

/-- **Padding brings the text of a value to its length and keeps the text.**  If the length is
more than the text has, is not beyond the longest, and there is something to pad with, the
result has exactly this length.  The text is its end, or its beginning where that side is set,
and the rest is the filling over and over.  In every other case the result is the text. -/
theorem pad_text (hv : v ≠ .null) (o : Options) :
    ∃ padded, pad o v = .text padded ∧
      (∀ n, o.padLength = some n → v.toText.length < n → n ≤ 2 ^ 20 → chars o.padChar " " ≠ [] →
        padded.length = n ∧ ∃ padding, IsRepeated (chars o.padChar " ") padding ∧
          (o.padSide ≠ some .finish → padded = padding ++ v.toText) ∧
          (o.padSide = some .finish → padded = v.toText ++ padding)) ∧
      ((∀ n, o.padLength = some n →
          n ≤ v.toText.length ∨ 2 ^ 20 < n ∨ chars o.padChar " " = []) →
        padded = v.toText) := by
  refine ⟨_, pad_of_ne_null hv o, ?_, ?_⟩
  · intro n hn hshort hmax hne
    have hunpadded : ¬ IsPadded n (chars o.padChar " ") v.toText := by
      rintro (hle | hnil | hlt)
      · exact absurd hshort (Nat.not_lt.2 hle)
      · exact hne hnil
      · exact absurd hmax (Nat.not_le.2 hlt)
    obtain ⟨padding, hrepeated, hstart, hfinish⟩ := exists_padding hunpadded
    simp only [hn]
    refine ⟨length_pad hunpadded _, padding, hrepeated, fun hside => ?_, fun hside => ?_⟩
    · rw [padSide_of_ne hside, hstart]
    · rw [hside, Option.getD_some, hfinish]
  · intro hother
    cases hn : o.padLength with
    | none => rfl
    | some n =>
      refine pad_of_isPadded ?_
      rcases hother n hn with hle | hlt | hnil
      · exact Or.inl hle
      · exact Or.inr (Or.inr hlt)
      · exact Or.inr (Or.inl hnil)

/-- A text of two characters fills three places in front of a flag, and a length beyond the
longest adds nothing. -/
theorem pad_text_flag :
    pad { padLength := some 7, padChar := some "é." } (.bool true) = .text "é.étrue".toList ∧
      pad { padLength := some (2 ^ 20 + 1) } (.bool true) = .text "true".toList := by
  constructor
  · obtain ⟨padded, hpad, hpadded, -⟩ :=
      pad_text (v := .bool true) nofun { padLength := some 7, padChar := some "é." }
    obtain ⟨hlength, padding, hrepeated, hstart, -⟩ :=
      hpadded 7 rfl (by decide) (by decide) (by decide)
    obtain rfl := hstart nofun
    have hthree : padding.length = 3 := by
      rw [List.length_append] at hlength
      exact Nat.add_right_cancel hlength
    rw [hpad, (isRepeated_iff (by decide)).1 hrepeated, hthree]
    rfl
  · obtain ⟨padded, hpad, -, hother⟩ :=
      pad_text (v := .bool true) nofun { padLength := some (2 ^ 20 + 1) }
    rw [hpad, hother fun n hn => Or.inr (Or.inl ?_)]
    · rfl
    · cases hn
      decide

end Step

end RecordFlow
