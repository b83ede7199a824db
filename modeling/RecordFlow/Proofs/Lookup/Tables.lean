import RecordFlow.Lookup.Resolve
import RecordFlow.Proofs.Value.Fields

/-!
# Values looked up in tables

Where upper and lower case are not told apart, a table is searched as if its keys had been put
in lower case one after the other, a later entry in place of an earlier one with the same key
(`Table.find?_caseless`).  The search goes through the table itself and takes the last key that
fits, so the order of the table settles which entry counts: it is the order of the bytes of the
keys, whatever order they were given in.

Two kinds of steps search tables, and differ in what they do about case when nothing is said of
it.  Once that is settled they give the same answer, except for a value that neither the table
nor a default has an answer for (`lookUp_table`).

## Main definitions

* `Table.folded` — a table with its keys in lower case.
* `Table.Fits` — a key of a table fits another.
* `Options.AsksTable` — the options lead to their table.
* `Options.Misses` — the options have an answer for a value neither in a table nor by default.
-/

namespace RecordFlow

/-! ### Tables without case -/

namespace Table

open Text

variable {table : Fields} {caseSensitive : Bool} {name key : String} {value : Value}

/-- **A table with its keys in lower case.**  The entries are set one after the other, so that
the last of those with the same lower case stays. -/
def folded (table : Fields) : Fields :=
  .ofList (table.map fun (name, value) => (lowered name, value))

/-- A search without case is one in the table with its keys in lower case. -/
theorem find?_false (table : Fields) (key : String) :
    find? table false key = (folded table).get? (lowered key) := by
  rw [find?, if_neg Bool.false_ne_true, folded, Fields.get?_ofList, List.filter_map,
    List.getLast?_map, Option.map_map]
  rfl

/-- What is found with regard to case is found without, if no other key has the same lower
case. -/
theorem find?_false_of_nodup (h : (table.map fun (name, _) => lowered name).Nodup)
    (hfound : find? table true key = some value) : find? table false key = some value := by
  have hmem : (key, value) ∈ table := Fields.mem_of_get? hfound
  have hfolded : (lowered key, value) ∈ table.map fun (name, value) => (lowered name, value) :=
    List.mem_map.2 ⟨_, hmem, rfl⟩
  rw [find?_false]
  refine Fields.get?_ofList_of_mem ?_ hfolded
  rw [List.map_map]
  exact h

/-- **A search without case is a search in the table with its keys in lower case,** which is
filled in the order of the table, that of the bytes of its keys.  So two keys of the same lower
case find the same, and what is found with regard to case is found without, if the keys of the
table differ in lower case. -/
theorem find?_caseless (table : Fields) :
    (∀ key, find? table false key = (folded table).get? (lowered key)) ∧
      (∀ pairs, table = .ofList pairs → table.Pairwise fun a b => utf8 a.1 < utf8 b.1) ∧
      (∀ key other, lowered key = lowered other →
        find? table false key = find? table false other) ∧
      ((table.map fun (name, _) => lowered name).Nodup →
        ∀ key value, find? table true key = some value → find? table false key = some value) := by
  refine ⟨find?_false table, ?_, ?_, fun h _ _ => find?_false_of_nodup h⟩
  · rintro pairs rfl
    exact (Fields.isOrdered_ofList pairs).pairwise_utf8
  · intro key other h
    rw [find?_false, find?_false, h]

/-- Colours that differ in more than case, given in another order, and one key in three
cases. -/
theorem find?_caseless_colours :
    let colours : Fields := .ofList [("red", .text ['R']), ("Green", .text ['G'])]
    let sizes : Fields := [("KEY", .int 1), ("Key", .int 2), ("key", .int 3)]
    find? sizes false "kEy" = some (.int 3) ∧
      colours.Pairwise (fun a b => utf8 a.1 < utf8 b.1) ∧
      find? colours false "GREEN" = find? colours false "green" ∧
      find? colours false "Green" = some (.text ['G']) := by
  intro colours sizes
  obtain ⟨-, hordered, hsame, hfound⟩ := find?_caseless colours
  have hfolded : (folded sizes).get? (lowered "kEy") = some (.int 3) := rfl
  have hlower : lowered "GREEN" = lowered "green" := by decide
  have hnodup : (colours.map fun (name, _) => lowered name).Nodup := by decide
  exact ⟨((find?_caseless sizes).1 "kEy").trans hfolded, hordered _ rfl, hsame _ _ hlower,
    hfound hnodup "Green" _ rfl⟩

/-- **A key of a table fits another key:** it is the same, or has the same lower case if upper
and lower case are not told apart. -/
def Fits (caseSensitive : Bool) (name key : String) : Prop :=
  if caseSensitive then name = key else lowered name = lowered key

/-- A table has nothing for a key that none of its own fits. -/
theorem find?_eq_none_iff :
    find? table caseSensitive key = none ↔ ∀ entry ∈ table, ¬ Fits caseSensitive entry.1 key := by
  cases caseSensitive with
  | true => simp only [find?, Fits, if_true, Fields.get?_eq_none_iff, ne_eq]
  | false => simp [find?, Fits]

end Table

/-! ### Steps that search tables -/

namespace Options

open Table

variable {o : Options} {v : Value} {caseSensitive : Bool} {table : Fields} {store : Store}
  {request : Request}

/-- **The options lead to their table:** they say so, or they say nothing, name no type of
entities and have a table. -/
def AsksTable (o : Options) : Prop :=
  o.lookupMode = some .static ∨
    o.lookupMode = none ∧ o.entityType = none ∧ o.values.isSome = true

/-- **The options have no answer for a value:** there is a table with no key that fits, and no
default. -/
structure Misses (o : Options) (caseSensitive : Bool) (v : Value) : Prop where
  /-- There is a value to look for. -/
  ne_null : v ≠ .null
  /-- There is a table, which does not have it. -/
  table : ∃ table, o.values = some table ∧
    ∀ entry ∈ table, ¬ Fits caseSensitive entry.1 (String.ofList v.toText)
  /-- Nothing but null is there instead. -/
  default : ∀ w, o.defaultValue = some w → w = .null

theorem not_misses_of_none (h : o.values = none) : ¬ o.Misses caseSensitive v := by
  intro hmisses
  obtain ⟨table, htable, -⟩ := hmisses.table
  rw [h] at htable
  cases htable

theorem misses_iff_of_values (hv : v ≠ .null) (htable : o.values = some table) :
    o.Misses caseSensitive v ↔
      find? table caseSensitive (String.ofList v.toText) = none ∧
        ∀ w, o.defaultValue = some w → w = .null := by
  rw [find?_eq_none_iff]
  constructor
  · rintro ⟨-, ⟨_, hvalues, hnone⟩, hdefault⟩
    obtain rfl := Option.some.inj (htable.symm.trans hvalues)
    exact ⟨hnone, hdefault⟩
  · rintro ⟨hnone, hdefault⟩
    exact ⟨hv, ⟨table, htable, hnone⟩, hdefault⟩

theorem effectiveMode_of_asksTable (h : o.AsksTable) : o.effectiveMode = some .static := by
  unfold effectiveMode
  rcases h with h | ⟨hmode, htype, hvalues⟩
  · rw [h]
  · simp [hmode, htype, hvalues]

/-- A lookup that is led to a table answers from it. -/
theorem lookUp_of_asksTable (h : o.AsksTable) (hv : v ≠ .null) :
    (lookUp store request o v).1 = o.tableAnswer v := by
  unfold lookUp plan
  rw [effectiveMode_of_asksTable h]
  cases v with
  | null => exact absurd rfl hv
  | _ => rfl

/-- With a default a lookup is answered by it, and without one by null. -/
theorem tableAnswer_of_values (hcase : o.caseSensitive = some caseSensitive)
    (htable : o.values = some table) :
    o.tableAnswer v =
      (find? table caseSensitive (String.ofList v.toText)).getD (o.defaultValue.getD .null) := by
  have hsensitive : (some caseSensitive != some false) = caseSensitive := by
    cases caseSensitive <;> rfl
  rw [tableAnswer, htable, hcase, hsensitive]

/-- With a default that is not null a value is replaced by it, and without one it stays. -/
theorem mapValue_of_values (hcase : o.caseSensitive = some caseSensitive)
    (htable : o.values = some table) (hv : v ≠ .null) :
    Step.mapValue o v =
      (find? table caseSensitive (String.ofList v.toText)).getD
        (match o.defaultValue with
        | none | some .null => v
        | some default => default) := by
  have hsensitive : (some caseSensitive == some true) = caseSensitive := by
    cases caseSensitive <;> rfl
  unfold Step.mapValue
  rw [htable, hcase, hsensitive]
  split
  · next heq => cases heq
  · exact absurd rfl hv
  · next heq _ =>
    obtain rfl := Option.some.inj heq
    cases find? table caseSensitive (String.ofList _) with
    | some found => rfl
    | none => rfl

/-- Without a table a value stays, and so does null. -/
theorem mapValue_of_none (h : o.values = none) : Step.mapValue o v = v := by
  unfold Step.mapValue
  rw [h]

theorem mapValue_null (o : Options) : Step.mapValue o .null = .null := by
  unfold Step.mapValue
  cases o.values <;> rfl

end Options

open Options in
/-- **A step that maps and a lookup in a table give the same answer,** once it is settled
whether case matters.  They differ for a value that the options have no answer for: the one
leaves it as it is and the other answers null. -/
theorem lookUp_table {o : Options} {caseSensitive : Bool}
    (hcase : o.caseSensitive = some caseSensitive) (htable : o.AsksTable) (store : Store)
    (request : Request) (v : Value) :
    (¬ o.Misses caseSensitive v → (lookUp store request o v).1 = Step.mapValue o v) ∧
      (o.Misses caseSensitive v →
        Step.mapValue o v = v ∧ (lookUp store request o v).1 = .null) := by
  by_cases hv : v = .null
  · subst hv
    exact ⟨fun _ => (mapValue_null o).symm, fun h => absurd rfl h.ne_null⟩
  rw [lookUp_of_asksTable htable hv]
  cases hvalues : o.values with
  | none =>
    refine ⟨fun _ => ?_, fun h => absurd h (not_misses_of_none hvalues)⟩
    rw [mapValue_of_none hvalues, tableAnswer, hvalues]
  | some table =>
    rw [tableAnswer_of_values hcase hvalues, mapValue_of_values hcase hvalues hv,
      misses_iff_of_values hv hvalues]
    cases Table.find? table caseSensitive (String.ofList v.toText) with
    | some found => exact ⟨fun _ => rfl, fun h => nomatch h.1⟩
    | none =>
      -- null is no default for a step that maps, and is the one that a lookup has anyway
      rw [Option.getD_none, Option.getD_none]
      split
      · next hdefault => simp [hdefault]
      · next hdefault => simp [hdefault]
      · next w hnull hdefault =>
        rw [hdefault]
        exact ⟨fun _ => rfl, fun h => absurd (h.2 w rfl) hnull⟩

/-- A colour in another case is found without regard to case, and one that is not in the table
is answered in two ways. -/
theorem lookUp_table_colours :
    let o : Options := { values := some [("red", .text ['R'])], caseSensitive := some false }
    let store : Store := fun _ _ _ => .ok none
    (lookUp store {} o (.str "RED")).1 = .text ['R'] ∧
      Step.mapValue o (.str "blue") = .str "blue" ∧
      (lookUp store {} o (.str "blue")).1 = .null := by
  intro o store
  have hcase : o.caseSensitive = some false := rfl
  have htable : o.AsksTable := Or.inr ⟨rfl, rfl, rfl⟩
  have hred : ¬ o.Misses false (.str "RED") := by
    rintro ⟨-, ⟨_, ⟨⟩, hnone⟩, -⟩
    have hfits : Text.lowered "red" = Text.lowered "RED" := by decide
    exact hnone _ List.mem_cons_self hfits
  have hblue : o.Misses false (.str "blue") := by
    refine ⟨by simp, ⟨_, rfl, fun entry hentry hfits => ?_⟩, fun _ h => nomatch h⟩
    have hother : Text.lowered "red" ≠ Text.lowered "blue" := by decide
    rw [List.mem_singleton.1 hentry] at hfits
    exact hother hfits
  have hmapped : Step.mapValue o (.str "RED") = .text ['R'] := rfl
  exact ⟨((lookUp_table hcase htable store {} _).1 hred).trans hmapped,
    (lookUp_table hcase htable store {} _).2 hblue⟩

end RecordFlow
