import Mathlib.Data.List.Induction
import RecordFlow.Proofs.Text.ByteOrder
import RecordFlow.Value.Basic

/-!
# Setting fields twice

Two fields of different names can be set in either order (`Fields.insert_comm`), and of two
values for one field the later one counts (`Fields.insert_insert`).

A field that is there is replaced where it stands and a new one is placed by its name, so each
law is one for replacing, one for placing, and one for the two together.  None of them needs the
fields to be in order to begin with: where a new field goes is settled by the first name that is
greater, and a field that has gone there before with a smaller name is not passed over by it.

Fields that are set one after the other are in increasing order of their names, however they
come (`Fields.isOrdered_ofList`), and those that are in order already stay as they are
(`Fields.IsOrdered.ofList_eq`).  That order is the one of the bytes of the names
(`Fields.IsOrdered.pairwise_utf8`).

## Main definitions

* `Fields.IsOrdered` — the fields stand in increasing order of their names.
-/

namespace RecordFlow.Fields

variable {fields : Fields} {key other : String}

/-! ### Replacing and placing -/

theorem replace_comm (h : key ≠ other) (fields : Fields) (value new : Value) :
    (fields.replace key value).replace other new =
      (fields.replace other new).replace key value := by
  induction fields with
  | nil => rfl
  | cons field rest ih =>
    obtain ⟨name, old⟩ := field
    by_cases hkey : name = key
    · subst hkey
      simp only [replace, if_true, if_neg h]
    · by_cases hother : name = other
      · subst hother
        simp only [replace, if_true, if_neg hkey]
      · simp only [replace, if_neg hkey, if_neg hother, ih]

theorem replace_place (h : key ≠ other) (fields : Fields) (value new : Value) :
    (fields.place key value).replace other new =
      (fields.replace other new).place key value := by
  induction fields with
  | nil => simp only [place, replace, if_neg h]
  | cons field rest ih =>
    obtain ⟨name, old⟩ := field
    by_cases hkey : key < name
    · by_cases hother : name = other
      · subst hother
        simp only [place, replace, if_pos hkey, if_neg h, if_true]
      · simp only [place, replace, if_pos hkey, if_neg h, if_neg hother]
    · by_cases hother : name = other
      · subst hother
        simp only [place, replace, if_neg hkey, if_true]
      · simp only [place, replace, if_neg hkey, if_neg hother, ih]

theorem place_comm (h : key ≠ other) (fields : Fields) (value new : Value) :
    (fields.place key value).place other new = (fields.place other new).place key value := by
  induction fields with
  | nil =>
    simp only [place]
    grind
  | cons field rest ih =>
    obtain ⟨name, old⟩ := field
    by_cases hkey : key < name
    · by_cases hother : other < name
      -- both go before this field, in the order of their own names
      · simp only [place, if_pos hkey, if_pos hother]
        grind
      · have hlt : ¬ other < key := fun hlt => hother (String.lt_trans hlt hkey)
        simp only [place, if_pos hkey, if_neg hother, if_neg hlt]
    · by_cases hother : other < name
      · have hlt : ¬ key < other := fun hlt => hkey (String.lt_trans hlt hother)
        simp only [place, if_neg hkey, if_pos hother, if_neg hlt]
      · simp only [place, if_neg hkey, if_neg hother, ih]

theorem replace_replace (fields : Fields) (key : String) (value new : Value) :
    (fields.replace key value).replace key new = fields.replace key new := by
  induction fields with
  | nil => rfl
  | cons field rest ih =>
    obtain ⟨name, old⟩ := field
    by_cases hkey : name = key
    · simp only [replace, if_pos hkey, if_true]
    · simp only [replace, if_neg hkey, ih]

/-- A new field that is replaced might as well have been placed with its later value. -/
theorem replace_place_self (h : fields.get? key = none) (value new : Value) :
    (fields.place key value).replace key new = fields.place key new := by
  induction fields with
  | nil => simp only [place, replace, if_true]
  | cons field rest ih =>
    obtain ⟨name, old⟩ := field
    have hname : name ≠ key := by
      rintro rfl
      simp [get?] at h
    rw [get?, if_neg hname] at h
    by_cases hlt : key < name
    · simp only [place, replace, if_pos hlt, if_true]
    · simp only [place, replace, if_neg hlt, if_neg hname, ih h]

/-! ### Setting -/

theorem insert_of_some {old : Value} (h : fields.get? key = some old) (value : Value) :
    fields.insert key value = fields.replace key value := by
  rw [insert, h]

theorem insert_of_none (h : fields.get? key = none) (value : Value) :
    fields.insert key value = fields.place key value := by
  rw [insert, h]

/-- **Of two values for one field the later one counts.** -/
theorem insert_insert (fields : Fields) (key : String) (value new : Value) :
    (fields.insert key value).insert key new = fields.insert key new := by
  have hset : (fields.insert key value).get? key = some value := by
    rw [get?_insert, if_pos rfl]
  rw [insert_of_some hset]
  cases hkey : fields.get? key with
  | none => rw [insert_of_none hkey, insert_of_none hkey, replace_place_self hkey]
  | some old => rw [insert_of_some hkey, insert_of_some hkey, replace_replace]

theorem replace_insert {old : Value} (h : key ≠ other) (ho : fields.get? other = some old)
    (value new : Value) :
    (fields.insert key value).replace other new =
      (fields.replace other new).insert key value := by
  have hget := get?_replace ho new key
  rw [if_neg h.symm] at hget
  cases hkey : fields.get? key with
  | none => rw [insert_of_none hkey, insert_of_none (hget.trans hkey), replace_place h]
  | some present => rw [insert_of_some hkey, insert_of_some (hget.trans hkey), replace_comm h]

theorem place_insert (h : key ≠ other) (ho : fields.get? other = none) (value new : Value) :
    (fields.insert key value).place other new = (fields.place other new).insert key value := by
  have hget := get?_place ho new key
  rw [if_neg h.symm] at hget
  cases hkey : fields.get? key with
  | none => rw [insert_of_none hkey, insert_of_none (hget.trans hkey), place_comm h]
  | some present =>
    rw [insert_of_some hkey, insert_of_some (hget.trans hkey), replace_place h.symm]

/-- **Two fields can be set in either order.** -/
theorem insert_comm (h : key ≠ other) (fields : Fields) (value new : Value) :
    (fields.insert key value).insert other new =
      (fields.insert other new).insert key value := by
  have hget : (fields.insert key value).get? other = fields.get? other := by
    rw [get?_insert, if_neg h]
  cases ho : fields.get? other with
  | none => rw [insert_of_none (hget.trans ho), insert_of_none ho, place_insert h ho]
  | some old => rw [insert_of_some (hget.trans ho), insert_of_some ho, replace_insert h ho]

/-! ### Setting one field after the other -/

/-- A field that is not among those that are set stays as it is. -/
theorem get?_foldl_insert_of_notMem {pairs : List (String × Value)}
    (h : key ∉ pairs.map Prod.fst) (fields : Fields) :
    (pairs.foldl (fun fields (name, value) => insert fields name value) fields).get? key =
      fields.get? key := by
  induction pairs generalizing fields with
  | nil => rfl
  | cons pair pairs ih =>
    obtain ⟨name, value⟩ := pair
    rw [List.map_cons, List.mem_cons, not_or] at h
    rw [List.foldl_cons, ih h.2, get?_insert, if_neg (Ne.symm h.1)]

/-- A list of pairs sets no other fields than its own. -/
theorem get?_ofList_of_notMem {pairs : List (String × Value)} (h : key ∉ pairs.map Prod.fst) :
    (ofList pairs).get? key = none :=
  get?_foldl_insert_of_notMem h []

/-- **A list of pairs of different names sets each of its fields.** -/
theorem get?_ofList_of_mem {pairs : List (String × Value)} {value : Value}
    (hnodup : (pairs.map Prod.fst).Nodup) (h : (key, value) ∈ pairs) :
    (ofList pairs).get? key = some value := by
  obtain ⟨before, after, rfl⟩ := List.append_of_mem h
  rw [List.map_append, List.map_cons, List.nodup_append, List.nodup_cons] at hnodup
  have hafter : key ∉ after.map Prod.fst := hnodup.2.1.1
  rw [ofList, List.foldl_append, List.foldl_cons, get?_foldl_insert_of_notMem hafter,
    get?_insert, if_pos rfl]

/-- **Of the values that a list of pairs has for a field the last one counts.** -/
theorem get?_ofList (pairs : List (String × Value)) (key : String) :
    (ofList pairs).get? key = (pairs.filter (·.1 == key)).getLast?.map Prod.snd := by
  induction pairs using List.reverseRecOn with
  | nil => rfl
  | append_singleton pairs pair ih =>
    obtain ⟨name, value⟩ := pair
    have hlast : ofList (pairs ++ [(name, value)]) = (ofList pairs).insert name value := by
      rw [ofList, List.foldl_append]
      rfl
    rw [hlast, get?_insert, ih, List.filter_append]
    by_cases h : name = key
    · simp [h]
    · simp [h]

theorem mem_of_get? {value : Value} (h : fields.get? key = some value) : (key, value) ∈ fields := by
  induction fields with
  | nil => cases h
  | cons field rest ih =>
    obtain ⟨name, present⟩ := field
    rw [get?] at h
    split at h
    · next hname =>
      obtain rfl := Option.some.inj h
      rw [hname]
      exact List.mem_cons_self
    · exact List.mem_cons_of_mem _ (ih h)

theorem get?_eq_none_iff : fields.get? key = none ↔ ∀ field ∈ fields, field.1 ≠ key := by
  induction fields with
  | nil => simp [get?]
  | cons field rest ih =>
    rw [get?, List.forall_mem_cons, ← ih]
    by_cases hname : field.1 = key
    · simp [hname]
    · simp [hname]

/-! ### The order of fields -/

/-- **The fields stand in increasing order of their names.**  Objects are kept so, and therefore
two objects with the same fields are the same value. -/
def IsOrdered (fields : Fields) : Prop :=
  (fields.map Prod.fst).Pairwise (· < ·)

theorem map_fst_replace (fields : Fields) (key : String) (value : Value) :
    (fields.replace key value).map Prod.fst = fields.map Prod.fst := by
  induction fields with
  | nil => rfl
  | cons field rest ih =>
    obtain ⟨name, old⟩ := field
    by_cases hname : name = key
    · rw [replace, if_pos hname, List.map_cons, List.map_cons, hname]
    · rw [replace, if_neg hname, List.map_cons, List.map_cons, ih]

theorem mem_map_fst_place {value : Value} :
    other ∈ (fields.place key value).map Prod.fst ↔
      other = key ∨ other ∈ fields.map Prod.fst := by
  induction fields with
  | nil => simp [place]
  | cons field rest ih =>
    obtain ⟨name, old⟩ := field
    rw [place]
    split
    · simp
    · rw [List.map_cons, List.map_cons, List.mem_cons, List.mem_cons, ih]
      exact or_left_comm

theorem isOrdered_place (hordered : fields.IsOrdered) (h : fields.get? key = none)
    (value : Value) : (fields.place key value).IsOrdered := by
  induction fields with
  | nil => exact List.pairwise_singleton _ _
  | cons field rest ih =>
    obtain ⟨name, old⟩ := field
    have hname : name ≠ key := by
      rintro rfl
      simp [get?] at h
    rw [get?, if_neg hname] at h
    obtain ⟨hfirst, hrest⟩ := List.pairwise_cons.1 hordered
    rw [place]
    split
    · next hlt =>
      refine List.pairwise_cons.2 ⟨fun other hother => ?_, hordered⟩
      rcases List.mem_cons.1 hother with rfl | hother
      · exact hlt
      · exact String.lt_trans hlt (hfirst other hother)
    · next hle =>
      have hlt : name < key := by grind
      refine List.pairwise_cons.2 ⟨fun other hother => ?_, ih hrest h⟩
      rcases mem_map_fst_place.1 hother with rfl | hother
      · exact hlt
      · exact hfirst other hother

theorem isOrdered_insert (hordered : fields.IsOrdered) (key : String) (value : Value) :
    (fields.insert key value).IsOrdered := by
  cases hkey : fields.get? key with
  | none =>
    rw [insert_of_none hkey]
    exact isOrdered_place hordered hkey value
  | some old =>
    rw [insert_of_some hkey, IsOrdered, map_fst_replace]
    exact hordered

/-- **Whatever order the pairs of a list are in, the fields that they set are in order.** -/
theorem isOrdered_ofList (pairs : List (String × Value)) : (ofList pairs).IsOrdered := by
  induction pairs using List.reverseRecOn with
  | nil => exact List.Pairwise.nil
  | append_singleton pairs pair ih =>
    rw [ofList, List.foldl_append]
    exact isOrdered_insert ih pair.1 pair.2

/-- A name that is greater than all others goes to the end. -/
theorem place_of_forall_lt (h : ∀ field ∈ fields, field.1 < key) (value : Value) :
    fields.place key value = fields ++ [(key, value)] := by
  induction fields with
  | nil => rfl
  | cons field rest ih =>
    obtain ⟨hfirst, hrest⟩ := List.forall_mem_cons.1 h
    rw [place, if_neg (String.lt_asymm hfirst), ih hrest, List.cons_append]

/-- **Fields in order are the fields that they set.** -/
theorem IsOrdered.ofList_eq (h : fields.IsOrdered) : ofList fields = fields := by
  induction fields using List.reverseRecOn with
  | nil => rfl
  | append_singleton fields field ih =>
    rw [IsOrdered, List.map_append, List.pairwise_append] at h
    obtain ⟨hfields, -, hlast⟩ := h
    have hless : ∀ other ∈ fields, other.1 < field.1 := fun other hother =>
      hlast other.1 (List.mem_map_of_mem hother) field.1 (List.mem_singleton_self _)
    have hnone : get? fields field.1 = none :=
      get?_eq_none_iff.2 fun other hother heq => String.lt_irrefl _ (heq ▸ hless other hother)
    rw [ofList, List.foldl_append, ← ofList, ih hfields]
    exact (insert_of_none hnone field.2).trans (place_of_forall_lt hless field.2)

/-- The order of names is that of their bytes. -/
theorem IsOrdered.pairwise_utf8 (h : fields.IsOrdered) :
    fields.Pairwise fun a b => Text.utf8 a.1 < Text.utf8 b.1 :=
  (List.pairwise_map.1 h).imp Text.utf8_lt_of_lt

end RecordFlow.Fields
