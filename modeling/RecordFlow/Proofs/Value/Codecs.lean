import Mathlib.Data.List.Forall2
import RecordFlow.Proofs.Value.Fields
import RecordFlow.Value.Decode

/-!
# Reading back what was written

Data is written as a value and read from one.  The two do not fit exactly: a datum may be read
from several values, and not every value holds one.  What they do promise is that a datum that
has once been read is read again from the value it is written as (`Codec.decode_encode`), and
that it is not written as null unless it was read from null (`Codec.encode_ne_null`).  Fields
that may be left out rest on the second promise: there null stands for what is absent.

A record is read field by field.  If each field is written under the name it is read under, then
it is read again (`Codec.optional_of_get?`, `Codec.required_of_get?`,
`Codec.withDefault_of_get?`), and an optional field is there again exactly if it was there
(`Fields.holds_of_optional`).

## Main definitions

* `Codec` — a way of writing data as values and of reading it back.
* `Fields.holds` — whether a field is there and not null.
-/

namespace RecordFlow

/-- **A way of writing data as values and of reading it back.**  Only data that has been read
need be read again: not all data can be, as a number beyond a bound cannot.  A setting that is
null counts as none, and so what is written for data is null only where null is data. -/
structure Codec (α : Type) where
  /-- The value that a datum is written as. -/
  encode : α → Value
  /-- The datum that is read from a value, if there is one in it. -/
  decode : Value → Option α
  decode_encode : ∀ {v x}, decode v = some x → decode (encode x) = some x
  encode_ne_null : ∀ {v x}, v ≠ .null → decode v = some x → encode x ≠ .null

/-! ### Integers -/

theorem Value.asIntWithin?_eq_some_iff {least beyond n : Int} {v : Value} :
    v.asIntWithin? least beyond = some n ↔ v = .int n ∧ least ≤ n ∧ n < beyond := by
  unfold asIntWithin?
  split
  · next m =>
    rw [Option.ite_none_right_eq_some]
    constructor
    · rintro ⟨hwithin, hm⟩
      cases hm
      exact ⟨rfl, hwithin⟩
    · rintro ⟨hm, hwithin⟩
      cases hm
      exact ⟨hwithin, rfl⟩
  · next hother =>
    constructor
    · nofun
    · rintro ⟨rfl, -⟩
      exact absurd rfl (hother n)

theorem Value.asNatBelow?_eq_some_iff {beyond n : Nat} {v : Value} :
    v.asNatBelow? beyond = some n ↔ v = .int n ∧ n < beyond := by
  simp only [asNatBelow?, Option.map_eq_some_iff, asIntWithin?_eq_some_iff]
  constructor
  · rintro ⟨m, ⟨rfl, hleast, hbeyond⟩, rfl⟩
    have hm : ((m.toNat : Nat) : Int) = m := Int.toNat_of_nonneg hleast
    exact ⟨by rw [hm], by omega⟩
  · rintro ⟨rfl, hbeyond⟩
    exact ⟨n, ⟨rfl, Int.natCast_nonneg n, by omega⟩, Int.toNat_natCast n⟩

namespace Codec

variable {α : Type}

/-! ### Plain data -/

/-- Strings. -/
def string : Codec String where
  encode := .str
  decode := Value.asString?
  decode_encode _ := rfl
  encode_ne_null _ _ := nofun

/-- Truth values. -/
def bool : Codec Bool where
  encode := .bool
  decode := Value.asBool?
  decode_encode _ := rfl
  encode_ne_null _ _ := nofun

/-- Objects. -/
def fields : Codec Fields where
  encode := .obj
  decode := Value.asFields?
  decode_encode _ := rfl
  encode_ne_null _ _ := nofun

/-- Floating-point numbers, which integers are read as, too. -/
def float : Codec Binary64 where
  encode x := .num (.float x)
  decode := Value.asFloat?
  decode_encode _ := rfl
  encode_ne_null _ _ := nofun

/-- Integers of sixty-four bits. -/
def int : Codec Int where
  encode := .int
  decode := Value.asInt?
  decode_encode h := Value.asIntWithin?_eq_some_iff.2 ⟨rfl, (Value.asIntWithin?_eq_some_iff.1 h).2⟩
  encode_ne_null _ _ := nofun

/-- Natural numbers below a bound. -/
def nat (beyond : Nat) : Codec Nat where
  encode n := .int n
  decode := Value.asNatBelow? beyond
  decode_encode h := Value.asNatBelow?_eq_some_iff.2 ⟨rfl, (Value.asNatBelow?_eq_some_iff.1 h).2⟩
  encode_ne_null _ _ := nofun

/-- Values as they are. -/
def value : Codec Value where
  encode := id
  decode := some
  decode_encode _ := rfl
  encode_ne_null hv h := Option.some.inj h ▸ hv

/-! ### Lists -/

/-- A list is read item by item. -/
theorem mapM_eq_some_iff {decode : Value → Option α} {items : List Value} {xs : List α} :
    items.mapM decode = some xs ↔ List.Forall₂ (fun v x => decode v = some x) items xs := by
  induction items generalizing xs with
  | nil =>
    rw [List.mapM_nil, List.forall₂_nil_left_iff]
    exact ⟨fun h => (Option.some.inj h).symm, fun h => congrArg some h.symm⟩
  | cons v items ih =>
    rw [List.forall₂_cons_left_iff]
    simp only [List.mapM_cons, Option.pure_def, Option.bind_eq_bind, Option.bind_eq_some_iff]
    constructor
    · rintro ⟨x, hx, rest, hrest, hxs⟩
      exact ⟨x, rest, hx, ih.1 hrest, (Option.some.inj hxs).symm⟩
    · rintro ⟨x, rest, hx, hrest, rfl⟩
      exact ⟨x, hx, rest, ih.2 hrest, rfl⟩

/-- Lists of data. -/
def list (c : Codec α) : Codec (List α) where
  encode xs := .arr (xs.map c.encode)
  decode := Value.asList? c.decode
  decode_encode := by
    intro v xs h
    cases v with
    | arr items =>
      have hread : List.Forall₂ (fun v x => c.decode v = some x) items xs := mapM_eq_some_iff.1 h
      show (xs.map c.encode).mapM c.decode = some xs
      rw [mapM_eq_some_iff, List.forall₂_map_left_iff]
      -- only the items that were read are known to be read again
      clear h
      induction hread with
      | nil => exact .nil
      | cons hx _ ih => exact .cons (c.decode_encode hx) ih
    | _ => cases h
  encode_ne_null _ _ := nofun

end Codec

/-! ### Fields -/

namespace Fields

variable {α : Type} {fields : Fields} {name : String} {decode : Value → Option α}

/-- Whether a field is there and not null. -/
def holds (fields : Fields) (name : String) : Bool :=
  match fields.get? name with
  | none | some .null => false
  | some _ => true

theorem optional_eq_none_iff :
    fields.optional name decode = some none ↔
      fields.get? name = none ∨ fields.get? name = some .null := by
  unfold optional
  split
  · next hget => simp only [hget, true_or]
  · next hget => simp only [hget, or_true]
  · next v hnull hget =>
    have hv : v ≠ .null := hnull
    simp [hget, hv]

theorem optional_eq_some_iff {x : α} :
    fields.optional name decode = some (some x) ↔
      ∃ v, fields.get? name = some v ∧ v ≠ .null ∧ decode v = some x := by
  unfold optional
  split
  · next hget => simp [hget]
  · next hget => simp [hget]
  · next v hnull hget =>
    have hv : v ≠ .null := hnull
    simp [hget, hv]

/-- **An optional field is set if it is there and not null.** -/
theorem holds_of_optional {x : Option α} (h : fields.optional name decode = some x) :
    fields.holds name = x.isSome := by
  unfold holds
  cases x with
  | none =>
    rcases optional_eq_none_iff.1 h with hget | hget
    · rw [hget]
      rfl
    · rw [hget]
      rfl
  | some x =>
    obtain ⟨v, hget, hv, -⟩ := optional_eq_some_iff.1 h
    rw [hget]
    cases v with
    | null => exact absurd rfl hv
    | _ => rfl

end Fields

namespace Codec

variable {α : Type} (c : Codec α) {fields written : Fields} {name : String}

/-- **An optional field that was read is read again,** if it is written under its name. -/
theorem optional_of_get? {x : Option α} (h : fields.optional name c.decode = some x)
    (hget : written.get? name = some (.ofOption c.encode x)) :
    written.optional name c.decode = some x := by
  cases x with
  | none => exact Fields.optional_eq_none_iff.2 (Or.inr hget)
  | some x =>
    obtain ⟨v, -, hv, hx⟩ := Fields.optional_eq_some_iff.1 h
    exact Fields.optional_eq_some_iff.2 ⟨_, hget, c.encode_ne_null hv hx, c.decode_encode hx⟩

theorem required_of_get? {x : α} (h : fields.required name c.decode = some x)
    (hget : written.get? name = some (c.encode x)) : written.required name c.decode = some x := by
  obtain ⟨v, -, hx⟩ := Option.bind_eq_some_iff.1 h
  rw [Fields.required, hget, Option.bind_some, c.decode_encode hx]

/-- A field with a default is written even where it was absent, so the default must be read
again, too. -/
theorem withDefault_of_get? {default x : α} (hdefault : c.decode (c.encode default) = some default)
    (h : fields.withDefault name default c.decode = some x)
    (hget : written.get? name = some (c.encode x)) :
    written.withDefault name default c.decode = some x := by
  have hx : c.decode (c.encode x) = some x := by
    unfold Fields.withDefault at h
    split at h
    · cases h
      exact hdefault
    · exact c.decode_encode h
  unfold Fields.withDefault
  rw [hget]
  exact hx

end Codec

end RecordFlow
