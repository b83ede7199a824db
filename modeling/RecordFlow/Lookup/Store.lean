import RecordFlow.Value.Coercion
import RecordFlow.Value.Decode

/-!
# Stores of entities

A lookup asks a store for the first entity of a type whose fields equal those of a filter.  A
store may fail, and it may keep a state of its own: what it answers may depend on what it was
asked before.  The store in memory holds a list of entities for each type, never fails, and
answers equal questions equally.

## Main definitions

* `EntityType` — the types of entities.
* `Request` — what is passed on to a store with every question.
* `LookupError` — why a store fails, or cannot be built.
* `Find` — a question, with what is passed on.
* `Store` — a store at one moment, as its answers.
* `Repository` — a store over time, as its answers after the questions so far.
* `Repository.AnswersEqually` — equal questions get equal answers.
* `Inventory` — the entities of a store in memory, with `Inventory.find?`.
-/

namespace RecordFlow

/-- **The types of entities.** -/
inductive EntityType where
  | product
  | productVariant
  | customer
  | collection
  | facet
  | facetValue
  | asset
  | customerGroup
deriving DecidableEq

namespace EntityType

/-- All types. -/
def all : List EntityType :=
  [product, productVariant, customer, collection, facet, facetValue, asset, customerGroup]

/-- The name of a type. -/
def name : EntityType → String
  | product => "Product"
  | productVariant => "ProductVariant"
  | customer => "Customer"
  | collection => "Collection"
  | facet => "Facet"
  | facetValue => "FacetValue"
  | asset => "Asset"
  | customerGroup => "CustomerGroup"

/-- The type that a name is of, in the very spelling. -/
def ofName? (name : String) : Option EntityType :=
  all.find? (·.name == name)

/-- A name is read as the type that it is the name of. -/
theorem ofName?_eq_some_iff {name : String} {type : EntityType} :
    ofName? name = some type ↔ name = type.name := by
  constructor
  · intro h
    have hname := List.find?_some h
    exact (beq_iff_eq.1 hname).symm
  · rintro rfl
    cases type <;> decide +kernel

end EntityType

/-- **What is passed on to a store** with every question. -/
structure Request where
  /-- The token of a channel. -/
  channelToken : Option String := none
  /-- The code of a language. -/
  languageCode : Option String := none
deriving DecidableEq

/-- The request in a record of data; fields of other names are passed over. -/
def Request.ofValue? (v : Value) : Option Request := do
  let o ← v.asRecord? ["channelToken", "languageCode"]
  return {
    channelToken := ← o.optional "channelToken" Value.asString?
    languageCode := ← o.optional "languageCode" Value.asString? }

/-- **Why a store fails,** or cannot be built. -/
inductive LookupError where
  /-- No type of entities has this name. -/
  | unknownEntityType (name : String)
  /-- The store could not answer a question about this type. -/
  | repository (type : EntityType) (reason : String)
  /-- The entities of a store are not given as they should be. -/
  | invalidFixtures (reason : String)
  /-- The store could not answer at all. -/
  | backend (reason : String)
deriving DecidableEq

/-- The failure in words. -/
def LookupError.message : LookupError → String
  | unknownEntityType name => "Unknown entity type '" ++ name ++ "'"
  | repository type reason => "Lookup on " ++ type.name ++ " failed: " ++ reason
  | invalidFixtures reason => "Invalid entity fixtures: " ++ reason
  | backend reason => reason

/-- **A question that was put to a store.** -/
structure Find where
  /-- The type of entities. -/
  type : EntityType
  /-- The filter. -/
  filter : Fields
  /-- What was passed on. -/
  request : Request

/-- **A store at one moment,** as its answers to questions for the first entity of a type whose
fields equal those of a filter.  One lookup asks at most one question, and so it sees no more of
a store than this. -/
abbrev Store := Request → EntityType → Fields → Except LookupError (Option Value)

/-- **A store over time.**  A store is shared by all lookups of a run and may well change while
it is asked: it may count its questions, keep what it has found, or fail from some question on.
All of that shows in its answers after the questions that it was asked before, in their order,
and nothing is assumed of how these answers depend on each other. -/
structure Repository where
  /-- The store as it is after some questions. -/
  after : List Find → Store

namespace Repository

/-- A store that is the same at every moment. -/
def ofStore (s : Store) : Repository :=
  ⟨fun _ => s⟩

instance : Coe Store Repository :=
  ⟨ofStore⟩

/-- **Equal questions get equal answers,** whatever was asked before them.  Only of such a store
can it be said that a question more or less, or two of them in the other order, leave the later
answers as they are. -/
def AnswersEqually (r : Repository) : Prop :=
  ∀ earlier later, r.after earlier = r.after later

theorem answersEqually_ofStore (s : Store) : (ofStore s).AnswersEqually :=
  fun _ _ => rfl

end Repository

/-- **The entities of a store in memory,** each with its type, in the order in which they were
added. -/
structure Inventory where
  /-- The entities. -/
  entries : List (EntityType × Value) := []

namespace Inventory

/-- Add entities of one type after those that are there. -/
def add (s : Inventory) (type : EntityType) (entities : List Value) : Inventory :=
  ⟨s.entries ++ entities.map (type, ·)⟩

/-- The entities of a type. -/
def ofType (s : Inventory) (type : EntityType) : List Value :=
  (s.entries.filter (·.1 = type)).map (·.2)

/-- The number of entities. -/
def size (s : Inventory) : Nat :=
  s.entries.length

/-- Whether the fields of an entity equal those of a filter. -/
def fits (filter : Fields) (entity : Value) : Bool :=
  filter.all fun (path, expected) => (entity.resolve path).sameAs expected

/-- **The first entity of a type that fits a filter.** -/
def find? (s : Inventory) (type : EntityType) (filter : Fields) : Option Value :=
  (s.ofType type).find? (fits filter)

/-- The store that answers from the entities. -/
def store (s : Inventory) : Store :=
  fun _ type filter => .ok (s.find? type filter)

/-- Add the list of entities that stands under the name of a type. -/
def addGroup (s : Inventory) (name : String) (entities : Value) :
    Except LookupError Inventory :=
  match EntityType.ofName? name, entities with
  | none, _ => .error (.unknownEntityType name)
  | some type, .arr items => .ok (s.add type items)
  | some _, _ =>
    .error (.invalidFixtures ("'" ++ name ++ "' must be an array of entities"))

/-- **The entities of an object of lists,** one list for each name of a type. -/
def ofValue : Value → Except LookupError Inventory
  | .obj groups => groups.foldlM (fun s (name, entities) => s.addGroup name entities) {}
  | _ => .error (.invalidFixtures "expected an object of entity lists")

end Inventory

end RecordFlow
