import RecordFlow.Formula.Condition
import RecordFlow.Lookup.Resolve
import RecordFlow.Proofs.Number.ExactValue

/-!
# Comparing integers

Numbers are compared as floating-point numbers, integers too.  So two integers are compared as
integers if floating-point numbers tell them apart (`Apart`), since rounding keeps the order;
and two integers that are rounded to the same number count as equal (`holds_int`).  Below
`2 ^ 53` every integer is told apart from every other one (`apart_of_natAbs_lt`), and the first
two that are not are `2 ^ 53` and `2 ^ 53 + 1` (`holds_int_collapsed`).

A store in memory compares in the same way, and with two such keys it gives the entity of
another key.

## Main definitions

* `Comparison.relates` — an operator as a relation in any linear order.
* `IsMachineInt` — the integers of 64 bits, with a sign or without.
* `Apart` — floating-point numbers tell two integers apart.
-/

namespace RecordFlow.Formula

/-- **What an operator says of an order.**  The answer to a comparison of integers is this of
their order, where floating-point numbers keep that. -/
def Comparison.relates {α : Type} [LinearOrder α] (op : Comparison) (x y : α) : Bool :=
  match op with
  | equal | strictEqual => decide (x = y)
  | notEqual | strictNotEqual => !decide (x = y)
  | greater => decide (y < x)
  | greaterOrEqual => decide (y ≤ x)
  | less => decide (x < y)
  | lessOrEqual => decide (x ≤ y)

/-- **The integers of 64 bits,** with a sign or without.  These are the integers that data keeps
as integers; any other numeral is read as a floating-point number. -/
def IsMachineInt (a : ℤ) : Prop :=
  -2 ^ 63 ≤ a ∧ a < 2 ^ 64

instance (a : ℤ) : Decidable (IsMachineInt a) :=
  inferInstanceAs (Decidable (_ ∧ _))

/-- **Floating-point numbers tell two integers apart:** different ones are rounded to different
numbers.  Comparisons go by way of floating-point numbers, so this is what settles whether a
comparison of integers is right. -/
def Apart (a b : ℤ) : Prop :=
  (Binary64.ofInt a).toRat = (Binary64.ofInt b).toRat → a = b

section Comparison

variable {α β : Type} [LinearOrder α] [LinearOrder β] {a b : ℤ}

/-- An operator says the same of two pairs that are in the same order. -/
theorem Comparison.relates_congr {x y : α} {u v : β} (heq : x = y ↔ u = v) (hlt : x < y ↔ u < v)
    (op : Comparison) : op.relates x y = op.relates u v := by
  have hle : y ≤ x ↔ v ≤ u := by rw [← not_lt, hlt, not_lt]
  have hle' : x ≤ y ↔ u ≤ v := by rw [le_iff_lt_or_eq, heq, hlt, ← le_iff_lt_or_eq]
  have hlt' : y < x ↔ v < u := by rw [← not_le, hle', not_le]
  cases op <;> simp only [relates, heq, hlt, hle, hle', hlt']

/-- **Finite numbers are compared by their exact values.** -/
theorem Comparison.holds_num {m n : Number} (hm : m.toBinary64.isFinite = true)
    (hn : n.toBinary64.isFinite = true) (op : Comparison) :
    op.holds (.num m) (.num n) = op.relates m.toBinary64.toRat n.toBinary64.toRat := by
  cases op <;>
    simp only [holds, orders, Value.sameAs, Value.numbers?, relates, Binary64.eq_eq_decide hm hn,
      Binary64.lt_eq_decide hm hn, Binary64.lt_eq_decide hn hm, Binary64.le_eq_decide hm hn,
      Binary64.le_eq_decide hn hm]

theorem IsMachineInt.natAbs_lt (ha : IsMachineInt a) : a.natAbs < Binary64.overflowBound := by
  have hbound : 2 ^ 64 < Binary64.overflowBound := by decide +kernel
  unfold IsMachineInt at ha
  omega

theorem IsMachineInt.isFinite (ha : IsMachineInt a) :
    (Number.int a).toBinary64.isFinite = true :=
  (Binary64.rounds_ofInt ha.natAbs_lt).1

/-- Integers that are told apart are rounded to numbers in the same order. -/
theorem Apart.toRat_lt_iff (ha : IsMachineInt a) (hb : IsMachineInt b) (h : Apart a b) :
    (Binary64.ofInt a).toRat < (Binary64.ofInt b).toRat ↔ a < b := by
  constructor
  · intro hlt
    by_contra hge
    exact absurd hlt
      (not_lt.2 (Binary64.toRat_ofInt_mono hb.natAbs_lt ha.natAbs_lt (not_lt.1 hge)))
  · intro hlt
    refine lt_of_le_of_ne (Binary64.toRat_ofInt_mono ha.natAbs_lt hb.natAbs_lt hlt.le) ?_
    exact fun heq => hlt.ne (h heq)

/-- **An integer below `2 ^ 53` is told apart from every other one.** -/
theorem apart_of_natAbs_lt (hb : IsMachineInt b) (h : a.natAbs < 2 ^ 53) : Apart a b := by
  intro heq
  rw [Binary64.toRat_ofInt h.le] at heq
  by_contra hne
  have hlarge : 2 ^ 53 < b.natAbs := by
    by_contra hle
    rw [Binary64.toRat_ofInt (not_lt.1 hle)] at heq
    exact hne (by exact_mod_cast heq)
  -- the integers at the limit are exact, and the other one is rounded to what is beyond them
  have hlimit : (2 ^ 53 : ℤ).natAbs < Binary64.overflowBound := by decide +kernel
  have hlimit' : (-2 ^ 53 : ℤ).natAbs < Binary64.overflowBound := by decide +kernel
  rcases le_or_gt 0 b with hpos | hneg
  · have hmono := Binary64.toRat_ofInt_mono hlimit hb.natAbs_lt (show 2 ^ 53 ≤ b by omega)
    rw [Binary64.toRat_ofInt (a := 2 ^ 53) (by decide), ← heq] at hmono
    have : (2 ^ 53 : ℤ) ≤ a := by exact_mod_cast hmono
    omega
  · have hmono := Binary64.toRat_ofInt_mono hb.natAbs_lt hlimit' (show b ≤ -2 ^ 53 by omega)
    rw [Binary64.toRat_ofInt (a := -2 ^ 53) (by decide), ← heq] at hmono
    have : a ≤ (-2 ^ 53 : ℤ) := by exact_mod_cast hmono
    omega

theorem Apart.symm (h : Apart a b) : Apart b a :=
  fun heq => (h heq.symm).symm

/-- Integers that are told apart are compared as integers. -/
theorem Apart.holds (ha : IsMachineInt a) (hb : IsMachineInt b) (h : Apart a b)
    (op : Comparison) : op.holds (.int a) (.int b) = op.relates a b := by
  have heq : (Binary64.ofInt a).toRat = (Binary64.ofInt b).toRat ↔ a = b :=
    ⟨h, fun hab => by rw [hab]⟩
  exact (op.holds_num ha.isFinite hb.isFinite).trans
    (Comparison.relates_congr heq (h.toRat_lt_iff ha hb) op)

/-- Integers that are not told apart are compared as equal ones. -/
theorem holds_int_of_not_apart (ha : IsMachineInt a) (hb : IsMachineInt b) (h : ¬ Apart a b)
    (op : Comparison) : op.holds (.int a) (.int b) = op.relates a a := by
  obtain ⟨heq, -⟩ : (Binary64.ofInt a).toRat = (Binary64.ofInt b).toRat ∧ a ≠ b := by
    simpa only [Apart, Classical.not_imp] using h
  refine (op.holds_num ha.isFinite hb.isFinite).trans (Comparison.relates_congr ?_ ?_ op)
  · exact iff_of_true heq rfl
  · exact iff_of_false heq.not_lt (lt_irrefl a)

end Comparison

section Stores

variable {s : Inventory} {type : EntityType} {path : String} {v entity : Value} {o : Options}
variable {request : Request}

/-- A store in memory answers with the first entity that fits. -/
theorem lookUp_store {toPath : String} (hplan : o.plan v = .ask type path toPath) :
    (lookUp s.store request o v).1 =
      ((s.find? type [(path, v)]).map (·.resolve toPath)).getD .null := by
  unfold lookUp
  rw [hplan]
  simp only [Inventory.store]
  cases s.find? type [(path, v)] <;> rfl

/-- What is found is an entity of the type, with an equal value in the field. -/
theorem of_find? (h : s.find? type [(path, v)] = some entity) :
    entity ∈ s.ofType type ∧ (entity.resolve path).sameAs v = true := by
  refine ⟨List.mem_of_find?_eq_some h, ?_⟩
  have hfits := List.find?_some h
  simpa [Inventory.fits] using hfits

end Stores

/-! ### Integers of 64 bits -/

/-- **Integers of 64 bits are compared as integers if floating-point numbers tell them apart,**
as they do if one of the two is below `2 ^ 53`; otherwise they count as equal.  With an integer
a store is asked for the first entity that has an equal number in the field, and if that is an
integer that is told apart from the one that was asked for, it is the same one.

The condition cannot be left out: `2 ^ 53` and the next integer count as equal, and so a lookup
for the one finds an entity with the other. -/
theorem holds_int {a b : ℤ} (ha : IsMachineInt a) (hb : IsMachineInt b) :
    (Apart a b → ∀ op : Comparison, op.holds (.int a) (.int b) = op.relates a b) ∧
      (¬ Apart a b → ∀ op : Comparison, op.holds (.int a) (.int b) = op.relates a a) ∧
      (a.natAbs < 2 ^ 53 ∨ b.natAbs < 2 ^ 53 → Apart a b) ∧
      ∀ (s : Inventory) (request : Request) (o : Options) (type : EntityType)
        (fromPath toPath : String), o.plan (.int a) = .ask type fromPath toPath →
        (lookUp s.store request o (.int a)).1 =
            ((s.find? type [(fromPath, .int a)]).map (·.resolve toPath)).getD .null ∧
          ∀ entity, s.find? type [(fromPath, .int a)] = some entity →
            entity ∈ s.ofType type ∧
              (entity.resolve fromPath = .int b → Apart a b → b = a) := by
  refine ⟨fun h op => h.holds ha hb op, fun h op => holds_int_of_not_apart ha hb h op, ?_, ?_⟩
  · rintro (h | h)
    · exact apart_of_natAbs_lt hb h
    · exact (apart_of_natAbs_lt ha h).symm
  · intro s request o type fromPath toPath hplan
    refine ⟨lookUp_store hplan, fun entity hfind => ?_⟩
    obtain ⟨hmem, hsame⟩ := of_find? hfind
    refine ⟨hmem, fun hkey happart => ?_⟩
    have hequal : Comparison.equal.holds (.int b) (.int a) = true := by
      rw [← hkey]
      exact hsame
    rw [happart.symm.holds hb ha] at hequal
    exact of_decide_eq_true hequal

/-- An integer beyond those of 32 bits and the next one: they are compared as integers, and the
entity of one is not found by the other. -/
theorem holds_int_neighbours :
    (∀ op : Comparison, op.holds (.int 4294967297) (.int 4294967296) =
      op.relates (4294967297 : ℤ) 4294967296) ∧
      ∀ (s : Inventory) (entity : Value),
        s.find? .product [("code", .int 4294967297)] = some entity →
        entity.resolve "code" ≠ .int 4294967296 := by
  obtain ⟨hcompare, -, hapart, hlookup⟩ :=
    holds_int (a := 4294967297) (b := 4294967296) (by decide) (by decide)
  have hapart := hapart (Or.inl (by decide))
  refine ⟨hcompare hapart, fun s entity hfind hkey => ?_⟩
  obtain ⟨-, hfound⟩ :=
    hlookup s {} { entityType := some "Product" } .product "code" "id" rfl
  exact absurd ((hfound entity hfind).2 hkey hapart) (by decide)

/-- **The first two integers that are not told apart:** they count as equal, and a store gives
the entity of one for the other. -/
theorem holds_int_collapsed :
    Comparison.equal.holds (.int (2 ^ 53 + 1)) (.int (2 ^ 53)) ≠
        Comparison.equal.relates (2 ^ 53 + 1 : ℤ) (2 ^ 53) ∧
      (Inventory.find? ⟨[(.product, .obj [("code", .int (2 ^ 53))])]⟩ .product
        [("code", .int (2 ^ 53 + 1))]).isSome = true := by
  decide +kernel

end RecordFlow.Formula
