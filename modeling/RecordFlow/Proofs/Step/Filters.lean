import Mathlib.Data.List.Basic
import RecordFlow.Proofs.Formula.ConditionGrammar
import RecordFlow.Step.Choice

/-!
# Filters that compare with a literal

An array that is filtered by a comparison with a literal keeps the items that the operator holds
of (`filter_comparing`), and these can be told by their positions (`KeptAt`).  A comparison is
read in the same way whatever its operator is, with the same literal, and so two filters with
opposite operators keep opposite positions (`filter_opposite`): an item that equals nothing, as
arrays and objects do, is kept by the second.  The ordering operators know numbers only.

## Main definitions

* `Comparison.equalities`, `Comparison.inequalities`, `Comparison.orderings` — the operators, by
  what they ask.
* `Options.comparing` — the options of a filter that compares with a literal.
* `KeptAt` — what is kept of a list at some positions.
-/

namespace RecordFlow

open Text Formula

namespace Formula.Comparison

/-- The operators that ask for equality. -/
def equalities : List Comparison :=
  [equal, strictEqual]

/-- The operators that ask for the opposite. -/
def inequalities : List Comparison :=
  [notEqual, strictNotEqual]

/-- The operators that ask for an order. -/
def orderings : List Comparison :=
  [greater, greaterOrEqual, less, lessOrEqual]

variable {op other : Comparison} {v w : Value}

theorem holds_of_mem_equalities (h : op ∈ equalities) (v w : Value) :
    op.holds v w = v.sameAs w := by
  simp only [equalities, List.mem_cons, List.not_mem_nil, or_false] at h
  rcases h with rfl | rfl <;> rfl

theorem holds_of_mem_inequalities (h : op ∈ inequalities) (v w : Value) :
    op.holds v w = !v.sameAs w := by
  simp only [inequalities, List.mem_cons, List.not_mem_nil, or_false] at h
  rcases h with rfl | rfl <;> rfl

/-- Only numbers have numbers. -/
theorem exists_num_of_orders {relation : Binary64 → Binary64 → Bool}
    (h : orders relation v w = true) : (∃ n, v = .num n) ∧ ∃ n, w = .num n := by
  cases v with
  | num m =>
    cases w with
    | num n => exact ⟨⟨m, rfl⟩, n, rfl⟩
    | _ => cases h
  | _ => cases h

/-- **An order holds between numbers only.** -/
theorem exists_num_of_mem_orderings (h : op ∈ orderings) (hholds : op.holds v w = true) :
    (∃ n, v = .num n) ∧ ∃ n, w = .num n := by
  simp only [orderings, List.mem_cons, List.not_mem_nil, or_false] at h
  rcases h with rfl | rfl | rfl | rfl <;> exact exists_num_of_orders hholds

end Formula.Comparison

/-- The options with a comparison of the value with a literal for their expression. -/
def Options.comparing (o : Options) (g : Spacing) (op : Comparison) (operand : List Char) :
    Options :=
  { o with expression := some (String.ofList (g.comparison "value".toList op operand)) }

namespace Step

variable {g : Spacing} {op : Comparison} {operand : List Char} {items : List Value}

/-- **What is kept of a list at some positions:** the items that stand there, in their order.
Items may be equal, and so it is told by positions which of them are kept. -/
structure KeptAt (items : List Value) (positions : List ℕ) (kept : List Value) : Prop where
  increasing : positions.Pairwise (· < ·)
  getElem?_eq : positions.map (items[·]?) = kept.map some

/-- A list that is filtered keeps the items at the positions where the test succeeds. -/
theorem keptAt_filter (p : Value → Bool) (items : List Value) :
    KeptAt items (items.findIdxs p) (items.filter p) := by
  refine ⟨List.pairwise_findIdxs, ?_⟩
  induction items with
  | nil => rfl
  | cons item rest ih =>
    -- the positions in the rest are counted on from one
    have hrest : ((rest.findIdxs p 1).map ((item :: rest)[·]?)) = (rest.filter p).map some := by
      rw [List.findIdxs_start, List.map_map, ← ih]
      exact List.map_congr_left fun i _ => List.getElem?_cons_succ
    cases hp : p item with
    | true =>
      rw [List.findIdxs_cons, if_pos hp, List.filter_cons_of_pos hp, List.map_cons, List.map_cons,
        hrest]
      rfl
    | false =>
      have hnot : ¬ p item = true := Bool.eq_false_iff.1 hp
      rw [List.findIdxs_cons, if_neg hnot, List.filter_cons_of_neg hnot, hrest]

/-- A written comparison with a literal holds of what the operator holds of. -/
theorem conditionHolds_comparison (hafter : g.after ≠ []) (ho : allBlank operand = false)
    (hline : '\n' ∉ operand) (v : Value) (record : Option Value) :
    conditionHolds (g.comparison "value".toList op operand) v record =
      op.holds v (literal operand) := by
  rw [conditionHolds, decideCondition_of_read? (read?_compare g op hafter ho hline)]
  rfl

/-- **A filter that compares with a literal keeps what the operator holds of.** -/
theorem filter_comparing (hafter : g.after ≠ []) (ho : allBlank operand = false)
    (hline : '\n' ∉ operand) (o : Options) (record : Option Value) (items : List Value) :
    filter (o.comparing g op operand) record (.arr items) =
      .arr (items.filter (op.holds · (literal operand))) := by
  simp only [filter, Options.comparing, String.toList_ofList,
    conditionHolds_comparison hafter ho hline]

/-- **Opposite filters take an array apart.**  Of an array that is filtered for what equals a
one-line literal, and for what does not, each position is kept by one of the two filters alone,
by the first if the item there equals the literal; both keep their items in order.  A filter
with an ordering operator keeps items in order too, numbers alone, and none if the literal is no
number. -/
theorem filter_opposite (ho : allBlank operand = false) (hline : '\n' ∉ operand) (o : Options)
    (record : Option Value) (items : List Value) :
    (∀ same ∈ Comparison.equalities, ∀ other ∈ Comparison.inequalities, ∀ g h : Spacing,
      g.after ≠ [] → h.after ≠ [] →
      ∃ equalAt otherAt equal different,
        filter (o.comparing g same operand) record (.arr items) = .arr equal ∧
        KeptAt items equalAt equal ∧
        filter (o.comparing h other operand) record (.arr items) = .arr different ∧
        KeptAt items otherAt different ∧
        ∀ (i : ℕ) (item : Value), items[i]? = some item →
          (i ∈ equalAt ↔ i ∉ otherAt) ∧
          (i ∈ equalAt ↔ item.sameAs (literal operand) = true)) ∧
    ∀ op ∈ Comparison.orderings, ∀ g : Spacing, g.after ≠ [] →
      ∃ positions kept, filter (o.comparing g op operand) record (.arr items) = .arr kept ∧
        KeptAt items positions kept ∧ (∀ item ∈ kept, ∃ n, item = .num n) ∧
        ((∀ n, literal operand ≠ .num n) → kept = []) := by
  constructor
  · intro same hsame other hother g h hg hh
    refine ⟨_, _, _, _, filter_comparing hg ho hline o record items, keptAt_filter _ items,
      filter_comparing hh ho hline o record items, keptAt_filter _ items, ?_⟩
    intro i item hitem
    obtain ⟨hlt, rfl⟩ := List.getElem?_eq_some_iff.1 hitem
    rw [List.mem_findIdxs_iff_pos_getElem hlt, List.mem_findIdxs_iff_pos_getElem hlt,
      Comparison.holds_of_mem_equalities hsame, Comparison.holds_of_mem_inequalities hother]
    simp
  · intro op hop g hg
    refine ⟨_, _, filter_comparing hg ho hline o record items, keptAt_filter _ items, ?_, ?_⟩
    · intro item hitem
      obtain ⟨-, hholds⟩ := List.mem_filter.1 hitem
      exact (Comparison.exists_num_of_mem_orderings hop hholds).1
    · intro hliteral
      rw [List.filter_eq_nil_iff]
      intro item _ hholds
      obtain ⟨-, n, hn⟩ := Comparison.exists_num_of_mem_orderings hop hholds
      exact hliteral n hn

/-- Filters for what is null and for what is not take an array apart, and nothing comes after
null. -/
theorem filter_opposite_null :
    (∃ positions kept,
        filter { expression := some "value != null" } none
          (.arr [.null, .str "null", .arr [.null]]) = .arr kept ∧
        KeptAt [.null, .str "null", .arr [.null]] positions kept ∧
        0 ∉ positions ∧ 1 ∈ positions ∧ 2 ∈ positions) ∧
      filter { expression := some "value > null" } none (.arr [.null, .int 1]) = .arr [] := by
  let g : Spacing := ⟨[], [' '], [' '], [], rfl, rfl, rfl, rfl⟩
  have hg : g.after ≠ [] := List.cons_ne_nil _ _
  have hblank : allBlank ['n', 'u', 'l', 'l'] = false := by decide
  have htexts :
      "value != null" = String.ofList (g.comparison "value".toList .notEqual ['n', 'u', 'l', 'l']) ∧
        "value > null" =
          String.ofList (g.comparison "value".toList .greater ['n', 'u', 'l', 'l']) := by
    decide +kernel
  rw [htexts.1, htexts.2]
  constructor
  · obtain ⟨hopposite, -⟩ := filter_opposite hblank (by decide) {} none
      [.null, .str "null", .arr [.null]]
    obtain ⟨equalAt, otherAt, equal, different, -, -, hfilter, hkept, hwhere⟩ :=
      hopposite .equal (by decide) .notEqual (by decide) g g hg hg
    have hother (i : ℕ) (item : Value)
        (hitem : [.null, .str "null", .arr [.null]][i]? = some item) :
        i ∈ otherAt ↔ item.sameAs (literal ['n', 'u', 'l', 'l']) = false := by
      obtain ⟨hone, hequal⟩ := hwhere i item hitem
      rw [← Bool.not_eq_true, ← hequal, hone, not_not]
    refine ⟨otherAt, different, hfilter, hkept, ?_, ?_, ?_⟩
    · rw [hother 0 .null rfl]
      decide +kernel
    · rw [hother 1 (.str "null") rfl]
      decide +kernel
    · rw [hother 2 (.arr [.null]) rfl]
      decide +kernel
  · obtain ⟨-, hordering⟩ := filter_opposite hblank (by decide) {} none [.null, .int 1]
    obtain ⟨positions, kept, hfilter, -, -, hnone⟩ := hordering .greater (by decide) g hg
    have htrim : trim ['n', 'u', 'l', 'l'] = "null".toList := by decide +kernel
    have hliteral (n : Number) : literal ['n', 'u', 'l', 'l'] ≠ .num n := by
      simp only [literal, htrim, true_or, if_true]
      exact nofun
    exact hfilter.trans (congrArg Value.arr (hnone hliteral))

end Step

end RecordFlow
