import RecordFlow.Proofs.Formula.SplitAndJoin
import RecordFlow.Step.Parts

/-!
# Splitting and joining by steps

The step that splits a string trims the parts, and the one that joins an array trims nothing.
So each of them undoes the other if there is no white space around the parts (`split_join`).

* Strings that are joined with a character are found again if none of them holds it.  The
  character may be white space itself, since nothing is trimmed before the string is split.
* A string is put together again from its parts, whatever the delimiter is.  Without a delimiter
  the parts are the characters, which are not trimmed.
-/

namespace RecordFlow.Step

open Text

variable {o r : Options} {delimiter : List Char} {parts : List (List Char)}

/-! ### The two steps -/

/-- Without a delimiter a string is split into its characters. -/
theorem split_of_nil (ho : chars o.delimiter "," = []) (t : String) :
    split o (.str t) = .arr ((t.toList.map ([·])).map .text) := by
  rw [List.map_map]
  simp only [split, ho, List.isEmpty_nil, if_true]
  rfl

/-- With a delimiter it is split into its parts, trimmed. -/
theorem split_of_ne_nil (ho : chars o.delimiter "," = delimiter) (hne : delimiter ≠ [])
    (t : String) :
    split o (.str t) = .arr (((splitOn delimiter t.toList).map Text.trim).map .text) := by
  rw [List.map_map]
  simp only [split, ho, List.isEmpty_eq_false_iff.2 hne, Bool.false_eq_true, if_false]
  rfl

/-- Strings are joined as they are. -/
theorem join_text (hr : chars r.delimiter "," = delimiter) (parts : List (List Char)) :
    join r (.arr (parts.map .text)) = .text (joinWith delimiter parts) := by
  rw [join, Formula.map_display_text, hr]

theorem map_trim_eq (h : ∀ part ∈ parts, IsTrimmed part) : parts.map Text.trim = parts :=
  (List.map_congr_left fun part hpart => (h part hpart).trim_eq).trans (List.map_id parts)

/-! ### One after the other -/

/-- **Splitting undoes joining, and joining undoes splitting, where nothing is trimmed.**
Strings without white space around them are found again from what they are joined to with a
character that none of them holds, if there is at least one.  A string is put together again
from what it is split into if there is no white space around its parts, and in any case if the
delimiter is empty. -/
theorem split_join (ho : chars o.delimiter "," = delimiter)
    (hr : chars r.delimiter "," = delimiter) :
    (∀ (c : Char) (parts : List (List Char)), delimiter = [c] → parts ≠ [] →
      (∀ part ∈ parts, IsTrimmed part ∧ c ∉ part) →
        split o (join r (.arr (parts.map .text))) = .arr (parts.map .text)) ∧
    ∀ t : String,
      (delimiter ≠ [] →
        ∃ parts, PartsOf delimiter t.toList parts ∧ ∀ part ∈ parts, IsTrimmed part) →
        join r (split o (.str t)) = .str t := by
  constructor
  · rintro c parts rfl hne hparts
    have hfound : splitOn [c] (joinWith [c] parts) = parts :=
      splitOn_joinWith hne fun part hpart => (hparts part hpart).2
    rw [join_text hr, Value.text, split_of_ne_nil ho (List.cons_ne_nil c []), String.toList_ofList,
      hfound, map_trim_eq fun part hpart => (hparts part hpart).1]
  · intro t hparts
    rcases eq_or_ne delimiter [] with rfl | hne
    · rw [split_of_nil ho, join_text hr, joinWith_nil_singletons, Value.text, String.ofList_toList]
    · obtain ⟨parts, hof, htrimmed⟩ := hparts hne
      rw [split_of_ne_nil ho hne, hof.splitOn_eq hne, map_trim_eq htrimmed, join_text hr,
        hof.joinWith_eq, Value.text, String.ofList_toList]

/-- A blank as delimiter, with an empty string among those that are joined; and a delimiter that
could be found at overlapping places. -/
theorem split_join_blank :
    split { delimiter := some " " } (join { delimiter := some " " }
        (.arr ([['a'], [], ['é', ',']].map .text))) = .arr ([['a'], [], ['é', ',']].map .text) ∧
      join { delimiter := some "--" } (split { delimiter := some "--" } (.str "---a b")) =
        .str "---a b" := by
  have hparts : PartsOf ['-', '-'] "---a b".toList [[], ['-', 'a', ' ', 'b']] :=
    .cut (a := []) (fun _ _ _ => Nat.zero_le _) (.whole (by decide))
  refine ⟨(split_join rfl rfl).1 ' ' _ (by decide +kernel) (by decide) (by decide +kernel), ?_⟩
  exact (split_join rfl rfl).2 "---a b" fun _ => ⟨_, hparts, by decide +kernel⟩

end RecordFlow.Step
