import RecordFlow.Value.Basic

/-!
# Decoding values

Readers of plain data from values.  Each gives nothing when the value has another
shape.  A field that may be left out may also be null, unless it has a default of its
own.

## Main definitions

* `Value.asString?`, `asBool?`, `asNat?`, `asInt?`, `asFloat?`, `asList?`, `asFields?` —
  the plain data in a value.
* `Value.asRecord?` — the fields of a record, which may be written without their names.
* `Value.asChoice?` — one of a few named choices.
* `Fields.optional`, `Fields.required`, `Fields.withDefault` — a field decoded.
-/

namespace RecordFlow

namespace Value

/-- The string that a value is. -/
def asString? : Value → Option String
  | str s => some s
  | _ => none

/-- The truth value that a value is. -/
def asBool? : Value → Option Bool
  | bool b => some b
  | _ => none

/-- The integer that a value is, below a bound and not below another. -/
def asIntWithin? (least beyond : Int) : Value → Option Int
  | num (.int n) => if least ≤ n ∧ n < beyond then some n else none
  | _ => none

/-- The integer of sixty-four bits that a value is. -/
def asInt? : Value → Option Int :=
  asIntWithin? (-2 ^ 63) (2 ^ 63)

/-- The natural number below a bound that a value is. -/
def asNatBelow? (beyond : Nat) (v : Value) : Option Nat :=
  (v.asIntWithin? 0 beyond).map Int.toNat

/-- The natural number of sixty-four bits that a value is. -/
def asNat? : Value → Option Nat :=
  asNatBelow? (2 ^ 64)

/-- The floating-point number nearest to the number that a value is. -/
def asFloat? : Value → Option Binary64
  | num n => some n.toBinary64
  | _ => none

/-- The items of an array, each decoded. -/
def asList? {α : Type} (decode : Value → Option α) : Value → Option (List α)
  | arr items => items.mapM decode
  | _ => none

/-- The fields of an object. -/
def asFields? : Value → Option Fields
  | obj fields => some fields
  | _ => none

/-- **The fields of a record with known field names:** an object, or an array of the
values of its first fields in the order of the names. -/
def asRecord? (names : List String) : Value → Option Fields
  | obj fields => some fields
  | arr items =>
    if items.length ≤ names.length then some (Fields.ofList (names.zip items)) else none
  | _ => none

/-- **One of a few named choices:** its name as a string, or an object whose only field
has that name and is null. -/
def asChoice? {α : Type} (choices : List (String × α)) (v : Value) : Option α :=
  match v with
  | str s => choices.lookup s
  | obj [(name, null)] => choices.lookup name
  | _ => none

end Value

namespace Fields

/-- A field that may be absent or null.  The outer option is empty when the field is
there and does not decode. -/
def optional {α : Type} (fields : Fields) (name : String) (decode : Value → Option α) :
    Option (Option α) :=
  match fields.get? name with
  | none | some .null => some none
  | some v => (decode v).map some

/-- A field that must be there. -/
def required {α : Type} (fields : Fields) (name : String) (decode : Value → Option α) :
    Option α :=
  (fields.get? name).bind decode

/-- A field with a default, which stands only for an absent field, not for null. -/
def withDefault {α : Type} (fields : Fields) (name : String) (default : α)
    (decode : Value → Option α) : Option α :=
  match fields.get? name with
  | none => some default
  | some v => decode v

end Fields

/-- The value of an optional datum; none is null. -/
def Value.ofOption {α : Type} (encode : α → Value) : Option α → Value
  | none => .null
  | some x => encode x

end RecordFlow
