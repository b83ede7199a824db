import RecordFlow.Proofs.Text.Scanning
import RecordFlow.Text.Case

/-!
# Case mappings and white space

A character that is not white space does not become white space in the other case
(`isBlank_of_mem_upperChar`, `isBlank_of_mem_lowerChar`), and it does not vanish
(`upperChar_ne_nil`).  So the words of a text are told apart by the same white space after their
case was changed.

Beyond ASCII this is a property of the listings.  A run of characters has an interval for its
images, or every second place of one, and so a run is all right if the interval holds no white
space (`CaseRun.AvoidsBlanks`).  The listings are evaluated as lists of characters
(`rows_ofList`).

## Main definitions

* `CaseRun.AvoidsBlanks` — no image of the run is white space.
-/

namespace RecordFlow.Text

variable {c d : Char} {n : Nat} {r : CaseRun} {runs : Array CaseRun}

/-! ### The listings -/

/-- A listing is read one character after the other. -/
theorem rows_ofList (cs : List Char) :
    rows (String.ofList cs) = (cs.foldl ListingState.step .start).closeRow.done := by
  rw [rows, String.foldl_eq_foldl_toList, String.toList_ofList]

/-- **No image of the run is white space.** -/
def CaseRun.AvoidsBlanks (r : CaseRun) : Prop :=
  ∀ code ∈ blankCodes, code < r.image ∨ r.image + (r.greatest - r.least) < code

instance (r : CaseRun) : Decidable r.AvoidsBlanks :=
  inferInstanceAs (Decidable (∀ code ∈ blankCodes, _))

theorem avoidsBlanks_of_mem_upperRuns : ∀ r ∈ upperRuns.toList, r.AvoidsBlanks := by
  rw [upperRuns, caseRuns, rows_ofList]
  decide +kernel

theorem avoidsBlanks_of_mem_lowerRuns : ∀ r ∈ lowerRuns.toList, r.AvoidsBlanks := by
  rw [lowerRuns, caseRuns, rows_ofList]
  decide +kernel

theorem tail_of_mem_upperExpansions :
    ∀ row ∈ upperExpansions.toList, row.tail ≠ [] ∧ ∀ code ∈ row.tail, code ∉ blankCodes := by
  rw [upperExpansions, rows_ofList]
  decide +kernel

/-! ### The characters -/

/-- A code that is not the code of white space gives no white space, and that of no character at
all does not either. -/
theorem isBlank_ofNat (h : n ∉ blankCodes) : isBlank (Char.ofNat n) = false := by
  by_cases hn : n.isValidChar
  · have hcode : (Char.ofNat n).toNat = n := by
      rw [Char.ofNat, dif_pos hn]
      rfl
    rw [Bool.eq_false_iff]
    intro hblank
    rw [← hcode] at h
    exact h (toNat_mem_blankCodes hblank)
  · rw [Char.ofNat, dif_neg hn]
    rfl

theorem CaseRun.AvoidsBlanks.notMem_of_image? {code : Nat} (h : r.AvoidsBlanks)
    (hn : r.image? code = some n) : n ∉ blankCodes := by
  rw [CaseRun.image?] at hn
  split at hn
  · next hcode =>
    cases hn
    intro hmem
    have := h _ hmem
    omega
  · cases hn

/-- The image of a character is not white space, if that of no run is. -/
theorem isBlank_caseImage (hruns : ∀ r ∈ runs.toList, r.AvoidsBlanks) (hc : isBlank c = false) :
    isBlank (caseImage runs c) = false := by
  rw [caseImage]
  cases hfound : runs.findSome? (·.image? c.toNat) with
  | none => rwa [Option.getD_none, Char.ofNat_toNat]
  | some code =>
    obtain ⟨r, hr, hcode⟩ := Array.exists_of_findSome?_eq_some hfound
    exact isBlank_ofNat ((hruns r (Array.mem_toList_iff.2 hr)).notMem_of_image? hcode)

/-- **Nothing becomes white space in upper case.** -/
theorem isBlank_of_mem_upperChar (hc : isBlank c = false) (hd : d ∈ upperChar c) :
    isBlank d = false := by
  rw [upperChar] at hd
  split at hd
  · rw [List.mem_singleton.1 hd]
    split
    · refine isBlank_ofNat ?_
      simp only [blankCodes, List.mem_cons, List.not_mem_nil, or_false]
      omega
    · exact hc
  · split at hd
    · next row hrow =>
      obtain ⟨code, hcode, rfl⟩ := List.mem_map.1 hd
      have hmem := Array.mem_toList_iff.2 (Array.mem_of_find?_eq_some hrow)
      exact isBlank_ofNat ((tail_of_mem_upperExpansions row hmem).2 code hcode)
    · rw [List.mem_singleton.1 hd]
      exact isBlank_caseImage avoidsBlanks_of_mem_upperRuns hc

/-- **Nor in lower case.** -/
theorem isBlank_of_mem_lowerChar (hc : isBlank c = false) (hd : d ∈ lowerChar c) :
    isBlank d = false := by
  rw [lowerChar] at hd
  split at hd
  · rw [List.mem_singleton.1 hd]
    split
    · refine isBlank_ofNat ?_
      simp only [blankCodes, List.mem_cons, List.not_mem_nil, or_false]
      omega
    · exact hc
  · split at hd
    · simp only [List.mem_cons, List.not_mem_nil, or_false] at hd
      rcases hd with rfl | rfl
      · rfl
      · rfl
    · rw [List.mem_singleton.1 hd]
      exact isBlank_caseImage avoidsBlanks_of_mem_lowerRuns hc

/-- **No character vanishes in upper case.** -/
theorem upperChar_ne_nil (c : Char) : upperChar c ≠ [] := by
  rw [upperChar]
  split
  · exact List.cons_ne_nil _ _
  · split
    · next row hrow =>
      have hmem := Array.mem_toList_iff.2 (Array.mem_of_find?_eq_some hrow)
      exact mt List.map_eq_nil_iff.1 (tail_of_mem_upperExpansions row hmem).1
    · exact List.cons_ne_nil _ _

end RecordFlow.Text
