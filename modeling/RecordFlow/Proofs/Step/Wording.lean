import RecordFlow.Proofs.Text.Scanning
import RecordFlow.Step.Wording

/-!
# Cut and padded texts

Cutting and padding bring a text to a length, and each can miss it.  A suffix that is longer
than the limit is kept whole, so that a text that is cut is short enough or the suffix itself
(`truncate_cases`).  The limit is kept just if the text or the suffix is short enough
(`length_truncate_le_iff`), and then what is left is the text, or a beginning of it with the
suffix, of the very length (`Step.truncate_str`).  A text that is padded is long enough, unless
there is nothing to pad with or the length is beyond the longest (`isPadded_pad`).  In each of
these cases the text is left alone when it is cut or padded once more (`truncate_truncate`,
`pad_pad`).

## Main definitions

* `Wording.IsPadded` — a text is left alone where it is padded.
-/

namespace RecordFlow

/-- A string is rewritten once by what rewrites texts once. -/
theorem Value.mapText_mapText {f : List Char → List Char} (h : ∀ s, f (f s) = f s) (v : Value) :
    (v.mapText f).mapText f = v.mapText f := by
  cases v with
  | str s => simp only [mapText, text, String.toList_ofList, h]
  | _ => rfl

namespace Wording

variable {maxLength length count : Nat} {suffix filler s : List Char} {side : PadSide}

/-! ### Cutting -/

theorem truncate_of_le (h : s.length ≤ maxLength) : truncate maxLength suffix s = s :=
  if_pos h

theorem truncate_of_lt (h : maxLength < s.length) :
    truncate maxLength suffix s = s.take (maxLength - suffix.length) ++ suffix :=
  if_neg (Nat.not_le.2 h)

/-- **A text that is cut is short enough, or it is the suffix.** -/
theorem truncate_cases (maxLength : Nat) (suffix s : List Char) :
    (truncate maxLength suffix s).length ≤ maxLength ∨
      truncate maxLength suffix s = suffix := by
  rcases Nat.lt_or_ge maxLength s.length with hlong | hshort
  · rw [truncate_of_lt hlong]
    rcases Nat.lt_or_ge maxLength suffix.length with hsuffix | hsuffix
    · right
      have hnone : maxLength - suffix.length = 0 := by omega
      rw [hnone, List.take_zero, List.nil_append]
    · left
      rw [List.length_append, List.length_take]
      omega
  · left
    rwa [truncate_of_le hshort]

theorem truncate_suffix (maxLength : Nat) (suffix : List Char) :
    truncate maxLength suffix suffix = suffix := by
  rcases Nat.lt_or_ge maxLength suffix.length with hlong | hshort
  · have hnone : maxLength - suffix.length = 0 := by omega
    rw [truncate_of_lt hlong, hnone, List.take_zero, List.nil_append]
  · exact truncate_of_le hshort

/-- A text is cut once. -/
theorem truncate_truncate (maxLength : Nat) (suffix s : List Char) :
    truncate maxLength suffix (truncate maxLength suffix s) = truncate maxLength suffix s := by
  rcases truncate_cases maxLength suffix s with hshort | hsuffix
  · exact truncate_of_le hshort
  · rw [hsuffix, truncate_suffix]

/-- **The limit is kept** just if the text or the suffix keeps it. -/
theorem length_truncate_le_iff (maxLength : Nat) (suffix s : List Char) :
    (truncate maxLength suffix s).length ≤ maxLength ↔
      s.length ≤ maxLength ∨ suffix.length ≤ maxLength := by
  rcases Nat.lt_or_ge maxLength s.length with hlong | hshort
  · rw [truncate_of_lt hlong, List.length_append, List.length_take]
    omega
  · rw [truncate_of_le hshort]
    exact iff_of_true hshort (Or.inl hshort)

/-! ### Padding -/

theorem length_cycled (h : filler ≠ []) (count : Nat) : (cycled filler count).length = count := by
  have hpos : 0 < filler.length := List.length_pos_iff.2 h
  have hdiv := Nat.div_add_mod count filler.length
  have hmod := Nat.mod_lt count hpos
  have hlength : (List.replicate (count / filler.length + 1) filler).flatten.length =
      filler.length * (count / filler.length) + filler.length := by
    rw [List.length_flatten, List.map_replicate, List.sum_replicate_nat, Nat.mul_comm, Nat.mul_succ]
  rw [cycled, List.length_take, hlength]
  omega

/-- Whether a text is left alone where it is padded to a length.  It is if it is long enough,
and also if nothing can be done: there is nothing to pad with, or the length is beyond the
longest. -/
def IsPadded (length : Nat) (filler s : List Char) : Prop :=
  length ≤ s.length ∨ filler = [] ∨ maxPadLength < length

theorem pad_of_isPadded (h : IsPadded length filler s) : pad length filler side s = s :=
  if_pos h

theorem pad_of_not_isPadded (h : ¬ IsPadded length filler s) (side : PadSide) :
    pad length filler side s =
      match side with
      | .start => cycled filler (length - s.length) ++ s
      | .finish => s ++ cycled filler (length - s.length) :=
  if_neg h

/-- A text that is padded has the length. -/
theorem length_pad (h : ¬ IsPadded length filler s) (side : PadSide) :
    (pad length filler side s).length = length := by
  have hcycled := length_cycled (fun hnil => h (Or.inr (Or.inl hnil))) (length - s.length)
  have hshort : ¬ length ≤ s.length := fun hle => h (Or.inl hle)
  rw [pad_of_not_isPadded h]
  cases side with
  | start =>
    simp only [List.length_append]
    omega
  | finish =>
    simp only [List.length_append]
    omega

/-- **A text that is padded is long enough,** unless there is nothing to pad with or the length
is beyond the longest. -/
theorem isPadded_pad (length : Nat) (filler : List Char) (side : PadSide) (s : List Char) :
    IsPadded length filler (pad length filler side s) := by
  by_cases h : IsPadded length filler s
  · rwa [pad_of_isPadded h]
  · exact Or.inl (length_pad h side).ge

/-- A text is padded once. -/
theorem pad_pad (length : Nat) (filler : List Char) (side : PadSide) (s : List Char) :
    pad length filler side (pad length filler side s) = pad length filler side s :=
  pad_of_isPadded (isPadded_pad length filler side s)

end Wording

namespace Step

variable {o : Options} {maxLength : Nat}

/-- **A string is cut to a beginning of it with the suffix,** if it is too long, and stays as it
is if it is not.  What is left keeps the limit just if the string or the suffix does; so a
suffix that is itself too long is all that is left, and is too long still.

The suffix is there to say that something is missing, and it is never cut itself.  That is why
the limit is kept under a condition only. -/
theorem truncate_str (hmax : o.maxLength = some maxLength) (s : String) :
    ∃ cut, truncate o (.str s) = .text cut ∧
      (s.toList.length ≤ maxLength → cut = s.toList) ∧
      (maxLength < s.toList.length →
        ∃ kept, kept <+: s.toList ∧ cut = kept ++ chars o.suffix "" ∧
          ((chars o.suffix "").length ≤ maxLength → cut.length = maxLength) ∧
          (maxLength < (chars o.suffix "").length → kept = [])) ∧
      (cut.length ≤ maxLength ↔
        s.toList.length ≤ maxLength ∨ (chars o.suffix "").length ≤ maxLength) := by
  generalize hsuffix : chars o.suffix "" = suffix
  refine ⟨Wording.truncate maxLength suffix s.toList, ?_, Wording.truncate_of_le, ?_,
    Wording.length_truncate_le_iff maxLength suffix s.toList⟩
  · rw [truncate, hmax, hsuffix]
    rfl
  · intro hlong
    have hcut : Wording.truncate maxLength suffix s.toList =
        s.toList.take (maxLength - suffix.length) ++ suffix := Wording.truncate_of_lt hlong
    refine ⟨s.toList.take (maxLength - suffix.length), List.take_prefix _ _, hcut, ?_, ?_⟩
    · intro hfits
      rw [hcut, List.length_append, List.length_take]
      omega
    · intro htoolong
      have hnone : maxLength - suffix.length = 0 := by omega
      rw [hnone, List.take_zero]

/-- A name that is cut to eight characters with three points at the end. -/
theorem truncate_str_longName :
    ∃ cut, truncate { maxLength := some 8, suffix := some "..." } (.str "Long product name") =
        .text cut ∧
      (∃ kept, kept <+: "Long product name".toList ∧ cut = kept ++ "...".toList) ∧
      cut.length ≤ 8 := by
  obtain ⟨cut, hcut, -, hlong, hlimit⟩ :=
    truncate_str (o := { maxLength := some 8, suffix := some "..." }) rfl "Long product name"
  obtain ⟨kept, hprefix, heq, -⟩ := hlong (by decide)
  exact ⟨cut, hcut, ⟨kept, hprefix, heq⟩, hlimit.2 (Or.inr (by decide))⟩

/-- **A suffix that is too long for the limit** is left whole. -/
theorem truncate_str_longSuffix :
    truncate { maxLength := some 2, suffix := some "..." } (.str "abcd") = .text "...".toList ∧
      ¬ "...".toList.length ≤ 2 :=
  ⟨rfl, by decide⟩

end Step

end RecordFlow
