import RecordFlow.Number.Shortest
import RecordFlow.Text.Blank
import RecordFlow.Text.Search

/-!
# Values

The records that steps work on, and the values in their fields, are trees of null,
booleans, numbers, strings, arrays and objects.

A number is an integer or a floating-point number; the two kinds of `5` and `5.0` are
numerically equal and print differently.  An object is a list of fields in increasing
order of their names; `Fields.insert` keeps that order, so that two objects with the
same fields are the same value.

## Main definitions

* `Number` — an integer or a floating-point number.
* `Value` — a tree of data.
* `Fields` — the fields of an object, with `get?` and `insert`.
* `Value.ofBinary64` — the value of a computed number.
-/

namespace RecordFlow

/-- **A number of a value.** -/
inductive Number where
  /-- An integer. -/
  | int (n : Int)
  /-- A floating-point number. -/
  | float (x : Binary64)
deriving DecidableEq

namespace Number

instance : Inhabited Number := ⟨int 0⟩

/-- The floating-point number nearest to the number. -/
def toBinary64 : Number → Binary64
  | int n => .ofInt n
  | float x => x

end Number

/-- **A value:** a tree of data. -/
inductive Value where
  /-- The absent value. -/
  | null
  /-- A truth value. -/
  | bool (b : Bool)
  /-- A number. -/
  | num (n : Number)
  /-- A string. -/
  | str (s : String)
  /-- An array of values. -/
  | arr (items : List Value)
  /-- An object; its fields stand in increasing order of their names. -/
  | obj (fields : List (String × Value))

namespace Value

instance : Inhabited Value := ⟨null⟩

/-- An integer as a value. -/
def int (n : Int) : Value :=
  num (.int n)

/-- A text as a value. -/
def text (s : List Char) : Value :=
  str (String.ofList s)

/-- The name of the kind of value. -/
def kindName : Value → String
  | null => "null"
  | bool _ => "boolean"
  | num _ => "number"
  | str _ => "string"
  | arr _ => "array"
  | obj _ => "object"

/-- Whether the value is null. -/
def isNull : Value → Bool
  | null => true
  | _ => false

/-- Whether the value is an array. -/
def isArray : Value → Bool
  | arr _ => true
  | _ => false

end Value

/-- The fields of an object, in increasing order of their names. -/
abbrev Fields := List (String × Value)

namespace Fields

/-- The value of a field. -/
def get? : Fields → String → Option Value
  | [], _ => none
  | (name, value) :: rest, key => if name = key then some value else get? rest key

/-- The fields with the value of one that is there replaced, where it stands. -/
def replace : Fields → String → Value → Fields
  | [], _, _ => []
  | (name, old) :: rest, key, value =>
    if name = key then (key, value) :: rest else (name, old) :: replace rest key value

/-- The fields with a new one among them, in its place by the order of names. -/
def place : Fields → String → Value → Fields
  | [], key, value => [(key, value)]
  | (name, old) :: rest, key, value =>
    if key < name then (key, value) :: (name, old) :: rest
    else (name, old) :: place rest key value

/-- The fields with one of them set: one that is there keeps its place, a new one goes
to its place by the order of names. -/
def insert (fields : Fields) (key : String) (value : Value) : Fields :=
  match fields.get? key with
  | some _ => fields.replace key value
  | none => fields.place key value

/-- The fields that a list of pairs sets one after the other. -/
def ofList (pairs : List (String × Value)) : Fields :=
  pairs.foldl (fun fields (key, value) => fields.insert key value) []

/-- A field that is replaced has its new value, and no other field changes. -/
theorem get?_replace {fields : Fields} {key : String} {old : Value}
    (h : fields.get? key = some old) (value : Value) (other : String) :
    (fields.replace key value).get? other =
      if key = other then some value else fields.get? other := by
  induction fields with
  | nil => simp [get?] at h
  | cons field rest ih =>
    obtain ⟨name, present⟩ := field
    by_cases hname : name = key
    · subst hname
      by_cases hother : name = other
      · simp [replace, get?, hother]
      · simp [replace, get?, hother]
    · rw [get?, if_neg hname] at h
      rw [replace, if_neg hname, get?, get?, ih h]
      by_cases hother : name = other
      · simp [hother, show key ≠ other from fun he => hname (hother.trans he.symm)]
      · simp [hother]

/-- A field that is placed has its value, and no other field changes. -/
theorem get?_place {fields : Fields} {key : String} (h : fields.get? key = none)
    (value : Value) (other : String) :
    (fields.place key value).get? other =
      if key = other then some value else fields.get? other := by
  induction fields with
  | nil => simp [place, get?]
  | cons field rest ih =>
    obtain ⟨name, present⟩ := field
    have hname : name ≠ key := by
      rintro rfl
      simp [get?] at h
    rw [get?, if_neg hname] at h
    rw [place]
    split
    · rw [get?]
    · rw [get?, get?, ih h]
      by_cases hother : name = other
      · simp [hother, show key ≠ other from fun he => hname (hother.trans he.symm)]
      · simp [hother]

/-- Setting a field sets it, and leaves the others alone. -/
theorem get?_insert (fields : Fields) (key : String) (value : Value) (other : String) :
    (fields.insert key value).get? other =
      if key = other then some value else fields.get? other := by
  rw [insert]
  split
  · next h => exact get?_replace h value other
  · next h => exact get?_place h value other

/-- Setting a field to the value it has changes nothing. -/
theorem insert_of_get? {fields : Fields} {key : String} {value : Value}
    (h : fields.get? key = some value) : fields.insert key value = fields := by
  rw [insert, h]
  show fields.replace key value = fields
  induction fields with
  | nil => rfl
  | cons field rest ih =>
    obtain ⟨name, present⟩ := field
    by_cases hname : name = key
    · subst hname
      simp only [get?, if_true, Option.some.injEq] at h
      simp [replace, h]
    · rw [get?, if_neg hname] at h
      rw [replace, if_neg hname, ih h]

end Fields

/-- The greatest integer up to which every integer is a floating-point number. -/
def maxExactInteger : Nat :=
  9007199254740991

/-- Whether a number is an integer of a magnitude that floating-point numbers hold
exactly. -/
def Binary64.isExactInteger (x : Binary64) : Bool :=
  x.isIntegral && x.toInt.natAbs ≤ maxExactInteger

/-- **The value of a computed number.**  An integer that floating-point numbers hold
exactly becomes an integer; what is not finite has no value. -/
def Value.ofBinary64 (x : Binary64) : Value :=
  if !x.isFinite then .null
  else if x.isExactInteger then .int x.toInt
  else .num (.float x)

end RecordFlow
