import RecordFlow.Step.Sequence
import RecordFlow.Proofs.Value.Nesting

/-!
# Nested arrays that are opened

Opening an array to a depth takes brackets away and nothing else, and so it can be done in
several goes (`Step.flatten_array`).

* Opening to one depth and then to another is opening to the sum of the two, empty arrays
  included (`Sequence.flatten_flatten`).
* The leaves stay, each of them in its place from left to right
  (`Sequence.leavesItems_flatten`).
* No array is left just if the depth reaches the innermost one (`Sequence.forall_flatten_iff`);
  what is left is then the row of the leaves.

All three follow the depth and not the value: an array that is opened hands its items over with
a depth that is less by one, and they are joined by `flatMap`.

## Main definitions

* `Value.leaves` — what is in a value and is no array, from left to right.
* `Value.arrayDepth` — how many arrays are inside each other.
-/

namespace RecordFlow

namespace Value

mutual

/-- **The leaves of a value,** from left to right: all that is no array.  An object is a leaf,
whatever stands in it. -/
def leaves : Value → List Value
  | .arr items => leavesItems items
  | v => [v]

/-- The leaves of the items of an array. -/
def leavesItems : List Value → List Value
  | [] => []
  | item :: rest => leaves item ++ leavesItems rest

end

mutual

/-- **How many arrays are inside each other:** one for an array without arrays in it, and none
for what is no array. -/
def arrayDepth : Value → ℕ
  | .arr items => arrayDepthItems items + 1
  | _ => 0

/-- The same for the items of an array, the greatest of them. -/
def arrayDepthItems : List Value → ℕ
  | [] => 0
  | item :: rest => max (arrayDepth item) (arrayDepthItems rest)

end

variable {v : Value} {items : List Value}

theorem exists_arr_or_isArray (v : Value) : (∃ items, v = .arr items) ∨ v.isArray = false := by
  cases v with
  | arr items => exact Or.inl ⟨items, rfl⟩
  | _ => exact Or.inr rfl

theorem leavesItems_eq_flatMap (items : List Value) : leavesItems items = items.flatMap leaves := by
  induction items with
  | nil => rfl
  | cons item rest ih => rw [leavesItems, ih, List.flatMap_cons]

theorem leaves_of_isArray (h : v.isArray = false) : v.leaves = [v] := by
  cases v with
  | arr items => cases h
  | _ => rfl

theorem arrayDepth_of_isArray (h : v.isArray = false) : v.arrayDepth = 0 := by
  cases v with
  | arr items => cases h
  | _ => rfl

theorem arrayDepthItems_le_iff {n : ℕ} :
    arrayDepthItems items ≤ n ↔ ∀ item ∈ items, item.arrayDepth ≤ n := by
  induction items with
  | nil => simp [arrayDepthItems]
  | cons item rest ih => rw [arrayDepthItems, max_le_iff, ih, List.forall_mem_cons]

/-- Items that are no arrays are their own leaves. -/
theorem leavesItems_of_forall (h : ∀ item ∈ items, item.isArray = false) :
    leavesItems items = items := by
  rw [leavesItems_eq_flatMap, List.flatMap_congr fun item hitem => leaves_of_isArray (h item hitem)]
  exact List.flatMap_singleton' items

end Value

namespace Sequence

variable {v : Value} {items : List Value}

theorem flatten_eq_flatMap (depth : ℕ) (items : List Value) :
    flatten depth items = items.flatMap (opened depth) := by
  induction items with
  | nil => rfl
  | cons item rest ih => rw [flatten, ih, List.flatMap_cons]

/-- To no depth nothing is opened. -/
theorem opened_zero (v : Value) : opened 0 v = [v] := by
  cases v <;> rfl

theorem opened_arr (depth : ℕ) (items : List Value) :
    opened (depth + 1) (.arr items) = items.flatMap (opened depth) := by
  rw [opened, flatten_eq_flatMap]

theorem opened_of_isArray (h : v.isArray = false) (depth : ℕ) : opened depth v = [v] := by
  cases v with
  | arr items => cases h
  | _ => cases depth <;> rfl

/-! ### Opening one value -/

/-- What was opened to a depth and is opened to another one is opened to both. -/
theorem flatMap_opened (d e : ℕ) (v : Value) :
    (opened d v).flatMap (opened e) = opened (d + e) v := by
  induction d generalizing v with
  | zero => rw [opened_zero, List.flatMap_singleton, Nat.zero_add]
  | succ d ih =>
    rcases v.exists_arr_or_isArray with ⟨items, rfl⟩ | hv
    · -- the items were opened to one depth less
      rw [opened_arr, List.flatMap_assoc, List.flatMap_congr fun item _ => ih item,
        Nat.add_right_comm, opened_arr]
    · rw [opened_of_isArray hv, List.flatMap_singleton, opened_of_isArray hv, opened_of_isArray hv]

/-- The leaves of a value are those of what it is opened to. -/
theorem flatMap_leaves_opened (d : ℕ) (v : Value) :
    (opened d v).flatMap Value.leaves = v.leaves := by
  induction d generalizing v with
  | zero => rw [opened_zero, List.flatMap_singleton]
  | succ d ih =>
    rcases v.exists_arr_or_isArray with ⟨items, rfl⟩ | hv
    · rw [opened_arr, List.flatMap_assoc, List.flatMap_congr fun item _ => ih item, Value.leaves,
        Value.leavesItems_eq_flatMap]
    · rw [opened_of_isArray hv, List.flatMap_singleton]

/-- **No array is left of a value just if the depth reaches them all.** -/
theorem forall_opened_iff (d : ℕ) (v : Value) :
    (∀ w ∈ opened d v, w.isArray = false) ↔ v.arrayDepth ≤ d := by
  induction d generalizing v with
  | zero =>
    rw [opened_zero, List.forall_mem_singleton]
    rcases v.exists_arr_or_isArray with ⟨items, rfl⟩ | hv
    · simp [Value.isArray, Value.arrayDepth]
    · exact iff_of_true hv (Value.arrayDepth_of_isArray hv).le
  | succ d ih =>
    rcases v.exists_arr_or_isArray with ⟨items, rfl⟩ | hv
    · rw [opened_arr, Value.arrayDepth, Nat.succ_le_succ_iff,
        Value.arrayDepthItems_le_iff]
      simp only [List.mem_flatMap, forall_exists_index, and_imp, ← ih]
      exact ⟨fun h item hitem w hw => h w item hitem hw, fun h w item hitem hw => h item hitem w hw⟩
    · rw [opened_of_isArray hv, List.forall_mem_singleton]
      exact iff_of_true hv ((Value.arrayDepth_of_isArray hv).le.trans (Nat.zero_le _))

/-! ### Opening the items of an array -/

/-- **Arrays can be opened in several goes.** -/
theorem flatten_flatten (d e : ℕ) (items : List Value) :
    flatten e (flatten d items) = flatten (d + e) items := by
  simp only [flatten_eq_flatMap, List.flatMap_assoc, flatMap_opened]

/-- **No leaf is lost, doubled or moved** where arrays are opened. -/
theorem leavesItems_flatten (d : ℕ) (items : List Value) :
    Value.leavesItems (flatten d items) = Value.leavesItems items := by
  simp only [Value.leavesItems_eq_flatMap, flatten_eq_flatMap, List.flatMap_assoc,
    flatMap_leaves_opened]

theorem forall_flatten_iff {d : ℕ} :
    (∀ item ∈ flatten d items, item.isArray = false) ↔ Value.arrayDepthItems items ≤ d := by
  have harr := forall_opened_iff (d + 1) (.arr items)
  rwa [opened, Value.arrayDepth, Nat.succ_le_succ_iff] at harr

end Sequence

namespace Step

/-- **Opening the arrays of an array loses nothing.**  Opening to one depth and then to another
one is opening to their sum.  Whatever the depth is, the leaves are those of the array, in their
order.  No array is left just if the depth reaches the innermost one, where the outermost one
needs none; and then the leaves are what is left. -/
theorem flatten_array (items : List Value) :
    (∀ o r t : Options, t.depth.getD 1 = o.depth.getD 1 + r.depth.getD 1 →
      flatten r (flatten o (.arr items)) = flatten t (.arr items)) ∧
    ∀ o : Options, ∃ flat, flatten o (.arr items) = .arr flat ∧
      (Value.arr flat).leaves = (Value.arr items).leaves ∧
      ((∀ item ∈ flat, item.isArray = false) ↔
        (Value.arr items).arrayDepth ≤ o.depth.getD 1 + 1) ∧
      ((Value.arr items).arrayDepth ≤ o.depth.getD 1 + 1 → flat = (Value.arr items).leaves) := by
  constructor
  · intro o r t hsum
    rw [flatten, flatten, flatten, Sequence.flatten_flatten, hsum]
  · intro o
    have hreach : (∀ item ∈ Sequence.flatten (o.depth.getD 1) items, item.isArray = false) ↔
        (Value.arr items).arrayDepth ≤ o.depth.getD 1 + 1 := by
      rw [Sequence.forall_flatten_iff, Value.arrayDepth, Nat.succ_le_succ_iff]
    have hleaves := Sequence.leavesItems_flatten (o.depth.getD 1) items
    refine ⟨Sequence.flatten (o.depth.getD 1) items, rfl, hleaves, hreach, ?_⟩
    intro hdepth
    rw [Value.leaves, ← hleaves, Value.leavesItems_of_forall (hreach.2 hdepth)]

/-- Arrays of four levels with an empty one among them, and an object that holds an array. -/
def boxes : List Value :=
  [.int 1, .arr [.arr [], .int 2, .arr [.int 3, .arr [.obj [("a", .arr [.null])]]]], .int 5]

/-- Opened to one level and then to two more, the boxes have only their leaves left. -/
theorem flatten_array_boxes :
    flatten { depth := some 2 } (flatten {} (.arr boxes)) =
        flatten { depth := some 3 } (.arr boxes) ∧
      flatten { depth := some 3 } (.arr boxes) =
        .arr [.int 1, .int 2, .int 3, .obj [("a", .arr [.null])], .int 5] := by
  obtain ⟨hsum, hopened⟩ := flatten_array boxes
  obtain ⟨flat, hflat, -, -, hleaves⟩ := hopened { depth := some 3 }
  refine ⟨hsum {} { depth := some 2 } { depth := some 3 } rfl, ?_⟩
  rw [hflat, hleaves (by decide)]
  rfl

end Step

end RecordFlow
