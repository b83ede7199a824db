import Mathlib.Data.List.Forall2
import RecordFlow.Lookup.Store

/-!
# Stores in memory

A store in memory is filled by additions, each of some entities of one type: first by those that
an object of lists stands for (`ofValue_eq_ok_iff`), then by any others.  What it holds of a
type is what was added of it, in this order (`ofType_addAll`), and a question is answered from
that alone.

Hence a store never forgets.  Entities that are added later stand behind those that were there,
so that an answer once given stays (`find?_addAll_of_some`), and entities of other types stand
in another list (`find?_addAll_of_ne`).

## Main definitions

* `Addition` — entities of one type.
* `Inventory.addAll` — a store with additions, one after the other.
* `Addition.Lists` — an object of lists stands for additions.
* `Inventory.Fits` — the fields of an entity equal those of a filter.
-/

namespace RecordFlow

/-- **Entities of one type,** to be added to a store.  They come behind those that are there, so
that an answer that was found once stays the first one. -/
structure Addition where
  /-- The type. -/
  type : EntityType
  /-- The entities. -/
  entities : List Value

namespace Addition

/-- The entities of a type among those of some additions, in order. -/
def ofType (additions : List Addition) (type : EntityType) : List Value :=
  (additions.filter (·.type = type)).flatMap (·.entities)

/-- A list that stands under the name of a type is an addition of this type. -/
def IsGroup (group : String × Value) (a : Addition) : Prop :=
  group = (a.type.name, .arr a.entities)

/-- **An object of lists stands for additions,** one for each list.  No other value does: what
is not an object, a key that is no name of a type, and a value that is no list are refused. -/
def Lists (fixtures : Value) (additions : List Addition) : Prop :=
  ∃ groups, fixtures = .obj groups ∧ List.Forall₂ IsGroup groups additions

end Addition

namespace Inventory

variable {s : Inventory} {type other : EntityType} {filter : Fields} {entity : Value}

/-- **A store with additions,** one after the other. -/
def addAll (s : Inventory) (additions : List Addition) : Inventory :=
  additions.foldl (fun s a => s.add a.type a.entities) s

/-- **The fields of an entity equal those of a filter.**  A field is named by a path, and what
is missing counts as null; numbers are equal if floating-point numbers do not tell them
apart. -/
def Fits (filter : Fields) (entity : Value) : Prop :=
  ∀ field ∈ filter, (entity.resolve field.1).sameAs field.2 = true

/-! ### What a store holds -/

theorem ofType_add (s : Inventory) (type other : EntityType) (entities : List Value) :
    (s.add other entities).ofType type =
      s.ofType type ++ if other = type then entities else [] := by
  simp only [ofType, add, List.filter_append, List.map_append, List.filter_map, List.map_map]
  split
  · next h => simp [Function.comp_def, h]
  · next h => simp [Function.comp_def, h]

theorem size_add (s : Inventory) (other : EntityType) (entities : List Value) :
    (s.add other entities).size = s.size + entities.length := by
  simp only [size, add, List.length_append, List.length_map]

/-- **A store holds of a type what it held and what was added.** -/
theorem ofType_addAll (s : Inventory) (additions : List Addition) (type : EntityType) :
    (s.addAll additions).ofType type = s.ofType type ++ Addition.ofType additions type := by
  induction additions generalizing s with
  | nil => exact (List.append_nil _).symm
  | cons a rest ih =>
    show ((s.add a.type a.entities).addAll rest).ofType type = _
    rw [ih, ofType_add, List.append_assoc, Addition.ofType, Addition.ofType, List.filter_cons]
    by_cases h : a.type = type
    · rw [if_pos h, if_pos (decide_eq_true h), List.flatMap_cons]
    · rw [if_neg h, if_neg (by simpa using h), List.nil_append]

/-- Some additions, and then others. -/
theorem addAll_append (s : Inventory) (first later : List Addition) :
    s.addAll (first ++ later) = (s.addAll first).addAll later :=
  List.foldl_append

/-- **The number of entities grows by those that are added.** -/
theorem size_addAll (s : Inventory) (additions : List Addition) :
    (s.addAll additions).size = s.size + (additions.flatMap (·.entities)).length := by
  induction additions generalizing s with
  | nil => rfl
  | cons a rest ih =>
    show ((s.add a.type a.entities).addAll rest).size = _
    rw [ih, size_add, List.flatMap_cons, List.length_append, Nat.add_assoc]

/-! ### What a store answers -/

/-- An entity fits a filter just if its fields equal those of the filter. -/
theorem fits_eq_true_iff : fits filter entity = true ↔ Fits filter entity :=
  List.all_eq_true

/-- **The first entity that fits** stands behind others that do not. -/
theorem find?_eq_some_iff :
    s.find? type filter = some entity ↔
      ∃ before after, s.ofType type = before ++ entity :: after ∧ Fits filter entity ∧
        ∀ e ∈ before, ¬ Fits filter e := by
  rw [find?, List.find?_eq_some_iff_append, fits_eq_true_iff]
  constructor
  · rintro ⟨hfits, before, after, hlist, hbefore⟩
    refine ⟨before, after, hlist, hfits, fun e he => ?_⟩
    have hnot := hbefore e he
    rwa [Bool.not_eq_true', Bool.eq_false_iff, ne_eq, fits_eq_true_iff] at hnot
  · rintro ⟨before, after, hlist, hfits, hbefore⟩
    refine ⟨hfits, before, after, hlist, fun e he => ?_⟩
    rw [Bool.not_eq_true', Bool.eq_false_iff, ne_eq, fits_eq_true_iff]
    exact hbefore e he

/-- Nothing is found just if nothing fits. -/
theorem find?_eq_none_iff :
    s.find? type filter = none ↔ ∀ e ∈ s.ofType type, ¬ Fits filter e := by
  rw [find?, List.find?_eq_none]
  exact forall₂_congr fun e _ => not_congr fits_eq_true_iff

/-- **An answer stays** when more entities are added. -/
theorem find?_addAll_of_some (h : s.find? type filter = some entity) (more : List Addition) :
    (s.addAll more).find? type filter = some entity := by
  rw [find?] at h ⊢
  rw [ofType_addAll, List.find?_append, h, Option.some_or]

/-- **Entities of other types change no answer.** -/
theorem find?_addAll_of_ne {more : List Addition} (h : ∀ a ∈ more, a.type ≠ type) :
    (s.addAll more).find? type filter = s.find? type filter := by
  have hnone : Addition.ofType more type = [] := by
    have hfilter : more.filter (·.type = type) = [] := by
      rw [List.filter_eq_nil_iff]
      exact fun a ha htype => h a ha (of_decide_eq_true htype)
    rw [Addition.ofType, hfilter, List.flatMap_nil]
  rw [find?, find?, ofType_addAll, hnone, List.append_nil]

/-- Arrays and objects equal nothing, so that a filter with one of them fits nothing. -/
theorem not_fits_of_composite {path : String} {v : Value} (hfield : (path, v) ∈ filter)
    (hv : (∃ items, v = .arr items) ∨ ∃ fields, v = .obj fields) : ¬ Fits filter entity := by
  intro hfits
  have hsame := hfits (path, v) hfield
  rcases hv with ⟨items, rfl⟩ | ⟨fields, rfl⟩
  · cases hentity : entity.resolve path <;> rw [hentity] at hsame <;> cases hsame
  · cases hentity : entity.resolve path <;> rw [hentity] at hsame <;> cases hsame

/-! ### Objects of lists -/

/-- **A list of entities under the name of a type is added,** and nothing else is. -/
theorem addGroup_eq_ok_iff {added : Inventory} {name : String} {entities : Value} :
    s.addGroup name entities = .ok added ↔
      ∃ a, Addition.IsGroup (name, entities) a ∧ added = s.add a.type a.entities := by
  simp only [addGroup, Addition.IsGroup, Prod.mk.injEq]
  constructor
  · intro h
    split at h
    · cases h
    · next type items hname =>
      cases h
      exact ⟨⟨type, items⟩, ⟨EntityType.ofName?_eq_some_iff.1 hname, rfl⟩, rfl⟩
    · cases h
  · rintro ⟨a, ⟨hname, rfl⟩, rfl⟩
    rw [EntityType.ofName?_eq_some_iff.2 hname]

/-- The groups of an object are added one after the other. -/
theorem foldlM_addGroup_eq_ok_iff {filled : Inventory} {groups : List (String × Value)} :
    groups.foldlM (fun s (name, entities) => s.addGroup name entities) s = .ok filled ↔
      ∃ additions, List.Forall₂ Addition.IsGroup groups additions ∧
        filled = s.addAll additions := by
  induction groups generalizing s with
  | nil =>
    constructor
    · intro h
      cases h
      exact ⟨[], .nil, rfl⟩
    · rintro ⟨additions, hall, rfl⟩
      cases hall
      rfl
  | cons group rest ih =>
    obtain ⟨name, entities⟩ := group
    show (s.addGroup name entities >>= fun s =>
      rest.foldlM (fun s (name, entities) => s.addGroup name entities) s) = .ok filled ↔ _
    constructor
    · intro h
      cases hgroup : s.addGroup name entities with
      | error e =>
        rw [hgroup] at h
        cases h
      | ok added =>
        rw [hgroup] at h
        obtain ⟨a, ha, rfl⟩ := addGroup_eq_ok_iff.1 hgroup
        obtain ⟨additions, hall, rfl⟩ := ih.1 h
        exact ⟨a :: additions, .cons ha hall, rfl⟩
    · rintro ⟨additions, hall, rfl⟩
      cases hall with
      | cons ha hall =>
        rw [addGroup_eq_ok_iff.2 ⟨_, ha, rfl⟩]
        exact ih.2 ⟨_, hall, rfl⟩

/-- **A store is filled from an object of lists** with the additions that it stands for. -/
theorem ofValue_eq_ok_iff {fixtures : Value} :
    ofValue fixtures = .ok s ↔
      ∃ additions, Addition.Lists fixtures additions ∧ s = ({} : Inventory).addAll additions := by
  by_cases hobj : ∃ groups, fixtures = .obj groups
  · obtain ⟨groups, rfl⟩ := hobj
    refine foldlM_addGroup_eq_ok_iff.trans ?_
    constructor
    · rintro ⟨additions, hall, rfl⟩
      exact ⟨additions, ⟨groups, rfl, hall⟩, rfl⟩
    · rintro ⟨additions, ⟨groups', heq, hall⟩, rfl⟩
      cases heq
      exact ⟨additions, hall, rfl⟩
  · refine iff_of_false ?_ fun ⟨_, ⟨groups, heq, _⟩, _⟩ => hobj ⟨groups, heq⟩
    unfold ofValue
    split
    · next groups => exact absurd ⟨groups, rfl⟩ hobj
    · intro h
      cases h

end Inventory

/-- **What stands for additions:** an object with the names of types for keys and lists for
values. -/
theorem Addition.exists_lists_iff {fixtures : Value} :
    (∃ additions, Addition.Lists fixtures additions) ↔
      ∃ groups, fixtures = .obj groups ∧ ∀ group ∈ groups,
        (∃ type : EntityType, group.1 = type.name) ∧ ∃ entities, group.2 = .arr entities := by
  have hgroup : ∀ group : String × Value, (∃ a, IsGroup group a) ↔
      (∃ type : EntityType, group.1 = type.name) ∧ ∃ entities, group.2 = .arr entities := by
    rintro ⟨name, v⟩
    constructor
    · rintro ⟨a, ha⟩
      cases ha
      exact ⟨⟨a.type, rfl⟩, a.entities, rfl⟩
    · rintro ⟨⟨type, hname⟩, entities, hv⟩
      exact ⟨⟨type, entities⟩, Prod.ext hname hv⟩
  constructor
  · rintro ⟨additions, groups, rfl, hall⟩
    refine ⟨groups, rfl, fun group hmem => (hgroup group).1 ?_⟩
    induction hall with
    | nil => cases hmem
    | cons ha _ ih =>
      rcases List.mem_cons.1 hmem with rfl | hmem
      · exact ⟨_, ha⟩
      · exact ih hmem
  · rintro ⟨groups, rfl, hall⟩
    suffices h : ∃ additions, List.Forall₂ IsGroup groups additions by
      obtain ⟨additions, hforall⟩ := h
      exact ⟨additions, groups, rfl, hforall⟩
    induction groups with
    | nil => exact ⟨[], .nil⟩
    | cons group rest ih =>
      obtain ⟨hfirst, hrest⟩ := List.forall_mem_cons.1 hall
      obtain ⟨a, ha⟩ := (hgroup group).2 hfirst
      obtain ⟨additions, hforall⟩ := ih hrest
      exact ⟨a :: additions, .cons ha hforall⟩

/-! ### Stores that are filled and added to -/

namespace Inventory

/-- **What a store is after some additions:** it answers with the first of the entities that
were added of a type which fits, and with nothing if none does, and what it has answered
stays. -/
structure HoldsAll (s : Inventory) (additions : List Addition) : Prop where
  /-- A store in memory never fails. -/
  answers : ∀ request type filter, ∃ found, s.store request type filter = .ok found
  /-- The first entity that fits is found. -/
  found_iff : ∀ request type filter entity, s.store request type filter = .ok (some entity) ↔
    ∃ before after, Addition.ofType additions type = before ++ entity :: after ∧
      Fits filter entity ∧ ∀ e ∈ before, ¬ Fits filter e
  /-- Nothing is found if nothing fits. -/
  none_iff : ∀ request type filter, s.store request type filter = .ok none ↔
    ∀ e ∈ Addition.ofType additions type, ¬ Fits filter e
  /-- What was found stays. -/
  stays : ∀ request type filter entity more, s.store request type filter = .ok (some entity) →
    (s.addAll more).store request type filter = .ok (some entity)
  /-- Additions of other types change no answer. -/
  others : ∀ request type filter more, (∀ a ∈ more, a.type ≠ type) →
    (s.addAll more).store request type filter = s.store request type filter
  /-- Arrays and objects match nothing. -/
  composite : ∀ request type filter path v, (path, v) ∈ filter →
    ((∃ items, v = .arr items) ∨ ∃ fields, v = .obj fields) →
      s.store request type filter = .ok none
  /-- All that was added is counted. -/
  size_eq : s.size = (additions.flatMap (·.entities)).length

theorem store_eq_ok_iff {request : Request} {type : EntityType} {filter : Fields}
    {s : Inventory} {found : Option Value} :
    s.store request type filter = .ok found ↔ s.find? type filter = found := by
  rw [store, Except.ok.injEq]

/-- **A store is what was added to it.** -/
theorem holdsAll_addAll (additions : List Addition) :
    (({} : Inventory).addAll additions).HoldsAll additions := by
  have hofType : ∀ type, (({} : Inventory).addAll additions).ofType type =
      Addition.ofType additions type :=
    fun type => ofType_addAll {} additions type
  refine ⟨fun _ _ _ => ⟨_, rfl⟩, ?_, ?_, ?_, ?_, ?_, ?_⟩
  · intro request type filter entity
    rw [store_eq_ok_iff, find?_eq_some_iff, hofType]
  · intro request type filter
    rw [store_eq_ok_iff, find?_eq_none_iff, hofType]
  · intro request type filter entity more h
    rw [store_eq_ok_iff] at h ⊢
    exact find?_addAll_of_some h more
  · intro request type filter more h
    exact congrArg Except.ok (find?_addAll_of_ne h)
  · intro request type filter path v hfield hv
    rw [store_eq_ok_iff, find?_eq_none_iff]
    exact fun e _ => not_fits_of_composite hfield hv
  · rw [size_addAll]
    exact Nat.zero_add _

/-- **A store answers with the first match and never forgets.**  It can be filled from the
objects whose keys are names of types and whose values are lists, and from nothing else; and
filled from one of them, it holds its lists and all that is added later, in this order. -/
theorem holdsAll_of_ofValue (fixtures : Value) :
    ((∃ s, ofValue fixtures = .ok s) ↔
      ∃ groups, fixtures = .obj groups ∧ ∀ group ∈ groups,
        (∃ type : EntityType, group.1 = type.name) ∧ ∃ entities, group.2 = .arr entities) ∧
      ∀ s, ofValue fixtures = .ok s → ∃ given, Addition.Lists fixtures given ∧
        ∀ later, (s.addAll later).HoldsAll (given ++ later) := by
  constructor
  · rw [← Addition.exists_lists_iff]
    constructor
    · rintro ⟨s, hs⟩
      obtain ⟨given, hgiven, -⟩ := ofValue_eq_ok_iff.1 hs
      exact ⟨given, hgiven⟩
    · rintro ⟨given, hgiven⟩
      exact ⟨_, ofValue_eq_ok_iff.2 ⟨given, hgiven, rfl⟩⟩
  · intro s hs
    obtain ⟨given, hgiven, rfl⟩ := ofValue_eq_ok_iff.1 hs
    refine ⟨given, hgiven, fun later => ?_⟩
    rw [← addAll_append]
    exact holdsAll_addAll (given ++ later)

/-- A hat with a number. -/
def hat (n : Int) : Value :=
  .obj [("code", .str "hat"), ("id", .int n)]

/-- A shoe and a hat among the products. -/
def hats : Value :=
  .obj [("Asset", .arr []), ("Product", .arr [.obj [("code", .str "shoe")], hat 1])]

/-- A second hat does not take the place of the first. -/
theorem holdsAll_of_ofValue_hats :
    ∃ s, ofValue hats = .ok s ∧
      s.store {} .product [("code", .str "hat")] = .ok (some (hat 1)) ∧
      (s.addAll [⟨.product, [hat 2]⟩]).store {} .product [("code", .str "hat")] =
        .ok (some (hat 1)) := by
  have hfilled : ofValue hats =
      .ok ⟨[(.product, .obj [("code", .str "shoe")]), (.product, hat 1)]⟩ := rfl
  obtain ⟨given, -, hholds⟩ := (holdsAll_of_ofValue hats).2 _ hfilled
  have hfound : Inventory.store ⟨[(.product, .obj [("code", .str "shoe")]), (.product, hat 1)]⟩ {}
      .product [("code", .str "hat")] = .ok (some (hat 1)) := by
    refine store_eq_ok_iff.2 (find?_eq_some_iff.2 ⟨[.obj [("code", .str "shoe")]], [], rfl,
      fits_eq_true_iff.1 (by decide +kernel), ?_⟩)
    rintro e he
    obtain rfl := List.mem_singleton.1 he
    exact mt fits_eq_true_iff.2 (by decide +kernel)
  exact ⟨_, hfilled, hfound, (hholds []).stays _ _ _ _ _ hfound⟩

end Inventory

end RecordFlow
