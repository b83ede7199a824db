import RecordFlow.Proofs.Text.Scanning
import RecordFlow.Text.Case

/-!
# Lower case of ASCII text within a text

Putting a text in lower case treats its characters one after the other, but a capital sigma
looks at what surrounds it.  An ASCII part of a text is not affected by that: it occurs in the
lower case of the whole as its own lower case (`infix_lower`).
-/

namespace RecordFlow.Text

variable {a before s : List Char} {c : Char}

/-- The lower case of an ASCII character. -/
theorem lowerChar_of_lt (h : c.toNat < 128) : lowerChar c = [c.toLower] := by
  have hall : ∀ n < 128, lowerChar (Char.ofNat n) = [(Char.ofNat n).toLower] := by
    decide +kernel
  have hc := hall c.toNat h
  rwa [Char.ofNat_toNat] at hc

/-- Only an ASCII character has an ASCII character for its ASCII lower case. -/
theorem lt_of_toLower_lt (h : c.toLower.toNat < 128) : c.toNat < 128 := by
  refine Nat.lt_of_not_le fun hge => ?_
  have hupper : ¬ (c.val ≥ 'A'.val ∧ c.val ≤ 'Z'.val) := by
    rintro ⟨-, hZ⟩
    exact absurd (Nat.le_trans hge (UInt32.le_iff_toNat_le.1 hZ)) (by decide)
  have hlower : c.toLower = c := dif_neg hupper
  rw [hlower] at h
  omega

/-- The lower case of a text ends in the lower case of each of its ends, in its place. -/
theorem exists_lowerAfter_append (before a s : List Char) :
    ∃ x, lowerAfter before (a ++ s) = x ++ lowerAfter (a.reverse ++ before) s := by
  induction a generalizing before with
  | nil => exact ⟨[], rfl⟩
  | cons c a ih =>
    obtain ⟨x, hx⟩ := ih (c :: before)
    rw [List.cons_append, lowerAfter, hx, ← List.append_assoc, List.reverse_cons,
      List.append_assoc a.reverse]
    exact ⟨_, rfl⟩

/-- An ASCII beginning is put in lower case by itself. -/
theorem lowerAfter_append_of_lt (ha : ∀ c ∈ a, c.toNat < 128) (before s : List Char) :
    lowerAfter before (a ++ s) = a.map Char.toLower ++ lowerAfter (a.reverse ++ before) s := by
  induction a generalizing before with
  | nil => rfl
  | cons c a ih =>
    obtain ⟨hc, ha⟩ := List.forall_mem_cons.1 ha
    rw [List.cons_append, lowerAfter, if_neg (by omega), lowerChar_of_lt hc, ih ha,
      List.map_cons, List.reverse_cons, List.append_assoc a.reverse]
    rfl

/-- **An ASCII part of a text is in its lower case, in lower case.** -/
theorem infix_lower (ha : ∀ c ∈ a, c.toNat < 128) (h : a <:+: s) :
    a.map Char.toLower <:+: lower s := by
  obtain ⟨front, back, rfl⟩ := h
  obtain ⟨x, hx⟩ := exists_lowerAfter_append [] front (a ++ back)
  rw [lower, List.append_assoc, hx, lowerAfter_append_of_lt ha]
  exact ⟨x, _, List.append_assoc ..⟩

end RecordFlow.Text
