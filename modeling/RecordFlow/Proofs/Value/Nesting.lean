import RecordFlow.Proofs.Formula.IntegerComparison
import RecordFlow.Proofs.Value.Fields

/-!
# How deep values are nested

A value is a tree, and what holds of every scalar, and of a container if it holds of what is in
it, holds of every value (`Value.induction`).  An array and an object count one level each, and
a scalar none (`Value.depth`).

## Main definitions

* `Value.depth` — the number of levels of a value.
* `Value.IsMachineData` — the numbers of a value are integers of a machine, and its fields are
  in order.
-/

namespace RecordFlow.Value

/-- **Induction along the nesting of values.** -/
theorem induction {motive : Value → Prop} (null : motive .null) (bool : ∀ b, motive (.bool b))
    (num : ∀ n, motive (.num n)) (str : ∀ s, motive (.str s))
    (arr : ∀ items : List Value, (∀ item ∈ items, motive item) → motive (.arr items))
    (obj : ∀ fields : Fields, (∀ field ∈ fields, motive field.2) → motive (.obj fields)) :
    ∀ v : Value, motive v
  | .null => null
  | .bool b => bool b
  | .num n => num n
  | .str s => str s
  | .arr items => arr items fun item _ => induction null bool num str arr obj item
  | .obj fields => obj fields fun field _ => induction null bool num str arr obj field.2
termination_by v => sizeOf v
decreasing_by
  · have := List.sizeOf_lt_of_mem ‹item ∈ items›
    simp only [Value.arr.sizeOf_spec]
    omega
  · have hfield := List.sizeOf_lt_of_mem ‹field ∈ fields›
    obtain ⟨name, value⟩ := field
    simp only [Value.obj.sizeOf_spec, Prod.mk.sizeOf_spec] at hfield ⊢
    omega

mutual

/-- **The number of levels of a value:** one for each array or object around another. -/
def depth : Value → ℕ
  | .arr items => 1 + depthItems items
  | .obj fields => 1 + depthFields fields
  | _ => 0

/-- The greatest number of levels of an item. -/
def depthItems : List Value → ℕ
  | [] => 0
  | item :: rest => max (depth item) (depthItems rest)

/-- The greatest number of levels of the value of a field. -/
def depthFields : List (String × Value) → ℕ
  | [] => 0
  | (_, value) :: rest => max (depth value) (depthFields rest)

end

/-- Arrays of one item, inside each other. -/
theorem depth_nested (n : ℕ) (v : Value) : depth ((fun v => .arr [v])^[n] v) = n + depth v := by
  induction n generalizing v with
  | zero => rw [Function.iterate_zero, id, Nat.zero_add]
  | succ n ih =>
    rw [Function.iterate_succ_apply, ih, depth, depthItems, depthItems]
    omega

theorem lt_depthItems_iff {n : ℕ} {items : List Value} :
    n < depthItems items ↔ ∃ item ∈ items, n < depth item := by
  induction items with
  | nil => simp [depthItems]
  | cons item items ih => rw [depthItems, lt_max_iff, ih, List.exists_mem_cons_iff]

theorem lt_depthFields_iff {n : ℕ} {fields : List (String × Value)} :
    n < depthFields fields ↔ ∃ field ∈ fields, n < depth field.2 := by
  induction fields with
  | nil => simp [depthFields]
  | cons field fields ih => rw [depthFields, lt_max_iff, ih, List.exists_mem_cons_iff]

theorem depthItems_le_iff {n : ℕ} {items : List Value} :
    depthItems items ≤ n ↔ ∀ item ∈ items, depth item ≤ n := by
  simpa only [not_lt, not_exists, not_and] using not_congr (lt_depthItems_iff (n := n))

theorem depthFields_le_iff {n : ℕ} {fields : List (String × Value)} :
    depthFields fields ≤ n ↔ ∀ field ∈ fields, depth field.2 ≤ n := by
  simpa only [not_lt, not_exists, not_and] using not_congr (lt_depthFields_iff (n := n))

/-- **Data of a machine:** all numbers are integers of 64 bits, and the fields of each object
stand in increasing order of their names.  Other numbers may be rounded on the way through a
text, and fields in another order are put into this one. -/
inductive IsMachineData : Value → Prop
  | null : IsMachineData .null
  | bool (b : Bool) : IsMachineData (.bool b)
  | int {n : ℤ} (h : Formula.IsMachineInt n) : IsMachineData (.int n)
  | str (s : String) : IsMachineData (.str s)
  | arr {items : List Value} (h : ∀ item ∈ items, IsMachineData item) : IsMachineData (.arr items)
  | obj {fields : Fields} (hordered : fields.IsOrdered)
    (h : ∀ field ∈ fields, IsMachineData field.2) : IsMachineData (.obj fields)

example : depth (.arr [.null, .obj [("a", .arr [])], .arr []]) = 3 := by decide

end RecordFlow.Value
