import RecordFlow.Lookup.Store
import RecordFlow.Step.Table

/-!
# Looking values up

A lookup finds its answer in a table of the options or in a store.  It never fails:
where a store does, or the options do not say what to look for, the answer is null and
there is a warning.  What a lookup asks and says is part of its result.

## Main definitions

* `LookupPlan` — what a lookup is going to do.
* `Options.plan` — the plan for a value under some options.
* `Effects` — the questions asked and the warnings given.
* `lookUp` — the answer for a value, with the effects.
-/

namespace RecordFlow

/-- **The questions asked and the warnings given,** each in order. -/
structure Effects where
  /-- The questions. -/
  finds : List Find := []
  /-- The warnings. -/
  warnings : List String := []

namespace Effects

/-- No questions and no warnings. -/
def none : Effects := {}

/-- First some effects, then others. -/
def append (a b : Effects) : Effects :=
  ⟨a.finds ++ b.finds, a.warnings ++ b.warnings⟩

instance : Append Effects := ⟨append⟩

end Effects

/-- **What a lookup is going to do.** -/
inductive LookupPlan where
  /-- Answer without asking. -/
  | answer (v : Value)
  /-- Give a warning and answer null. -/
  | refuse (warning : String)
  /-- Ask for an entity whose field `fromPath` equals the value, and answer with what it
  has at `toPath`. -/
  | ask (type : EntityType) (fromPath toPath : String)

/-- Where the answer is to be found: as the options say, else in the store if there is
a type of entities, else in the table if there is one. -/
def Options.effectiveMode (o : Options) : Option LookupMode :=
  match o.lookupMode with
  | some mode => some mode
  | none =>
    if o.entityType.isSome then some .entity
    else if o.values.isSome then some .static
    else none

/-- The answer of the table, with the default or null for what it does not have; case
matters unless the options say that it does not. -/
def Options.tableAnswer (o : Options) (v : Value) : Value :=
  match o.values with
  | none => v
  | some table =>
    (Table.find? table (o.caseSensitive != some false) (String.ofList v.toText)).getD
      (o.defaultValue.getD .null)

/-- **The plan for a value.** -/
def Options.plan (o : Options) (v : Value) : LookupPlan :=
  match v with
  | .null => .answer .null
  | v =>
    match o.effectiveMode with
    | none => .answer v
    | some .static => .answer (o.tableAnswer v)
    | some .entity =>
      match o.entityType with
      | none => .refuse "Entity lookup configured without an entityType"
      | some name =>
        match EntityType.ofName? name with
        | none => .refuse (LookupError.unknownEntityType name).message
        | some type => .ask type (o.fromField.getD "code") (o.toField.getD "id")

/-- What is said of a question that failed. -/
def failureWarning (type : EntityType) (path : String) (v : Value) (e : LookupError) :
    String :=
  "Lookup of " ++ type.name ++ " by " ++ path ++ "=" ++ String.ofList v.toText ++
    " failed: " ++ e.message

/-- **The answer for a value,** with the effects. -/
def lookUp (store : Store) (request : Request) (o : Options) (v : Value) :
    Value × Effects :=
  match o.plan v with
  | .answer w => (w, .none)
  | .refuse warning => (.null, ⟨[], [warning]⟩)
  | .ask type fromPath toPath =>
    let filter : Fields := [(fromPath, v)]
    let find : Find := ⟨type, filter, request⟩
    match store request type filter with
    | .ok (some entity) => (entity.resolve toPath, ⟨[find], []⟩)
    | .ok Option.none => (.null, ⟨[find], []⟩)
    | .error e => (.null, ⟨[find], [failureWarning type fromPath v e]⟩)

end RecordFlow
