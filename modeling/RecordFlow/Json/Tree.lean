import RecordFlow.Json.Token

/-!
# Trees of JSON

A text in JSON is a tree of tokens: arrays and objects with the strings, numbers and words in
them, just as they are written.  An object keeps all its fields in order, also two of one name,
and a token that means nothing stands in the tree like any other.

Tokens are read one at a time by a machine that keeps the arrays and objects that are still
open, innermost first, and what may come next.

## Main definitions

* `Json.Tree` — a text as it is written.
* `Json.Frame` — an array or an object that is still open.
* `Json.State` — the open containers and what may come next.
* `Json.step` — the effect of one token.
* `Json.tree?` — the tree that a text spells.
-/

namespace RecordFlow.Json

/-- **A text as it is written.** -/
inductive Tree where
  /-- A number or a word, with its value if it has one. -/
  | scalar (v : Option Value)
  /-- A string, with its characters if it has any meaning. -/
  | string (s : Option (List Char))
  /-- An array. -/
  | array (items : List Tree)
  /-- An object, with all its fields as they are written. -/
  | object (fields : List (Option (List Char) × Tree))

instance : Inhabited Tree := ⟨.scalar none⟩

/-- **A container that is still open.** -/
inductive Frame where
  /-- An array, with its items so far, last first. -/
  | array (items : List Tree)
  /-- An object with its fields so far, last first, and the name of the field being read. -/
  | object (fields : List (Option (List Char) × Tree)) (name : Option (List Char))

/-- **What may come next.** -/
inductive Expectation where
  /-- A value. -/
  | value
  /-- A first item, or the end of the array just opened. -/
  | itemOrEnd
  /-- The name of a field. -/
  | name
  /-- The name of a first field, or the end of the object just opened. -/
  | nameOrEnd
  /-- The colon after a name. -/
  | colon
  /-- A comma or the end of the innermost container. -/
  | commaOrEnd
  /-- Nothing: the tree is complete. -/
  | done (result : Tree)

/-- **The state of reading.** -/
structure State where
  /-- The open containers, innermost first. -/
  frames : List Frame
  /-- What may come next. -/
  expect : Expectation

/-- A tree has been read: it goes into the innermost container. -/
def deliver (frames : List Frame) (t : Tree) : State :=
  match frames with
  | [] => ⟨[], .done t⟩
  | .array items :: outer => ⟨.array (t :: items) :: outer, .commaOrEnd⟩
  | .object fields name :: outer => ⟨.object ((name, t) :: fields) name :: outer, .commaOrEnd⟩

/-- A value begins with this token. -/
def beginValue (frames : List Frame) : Token → Option State
  | .scalar v => some (deliver frames (.scalar v))
  | .string s => some (deliver frames (.string s))
  | .openArray => some ⟨.array [] :: frames, .itemOrEnd⟩
  | .openObject => some ⟨.object [] none :: frames, .nameOrEnd⟩
  | _ => none

/-- **The effect of one token.** -/
def step (state : State) (token : Token) : Option State :=
  match state.expect, token, state.frames with
  | .value, t, frames => beginValue frames t
  | .itemOrEnd, .closeArray, .array items :: outer =>
    some (deliver outer (.array items.reverse))
  | .itemOrEnd, t, frames => beginValue frames t
  | .name, .string s, .object fields _ :: outer
  | .nameOrEnd, .string s, .object fields _ :: outer =>
    some ⟨.object fields s :: outer, .colon⟩
  | .nameOrEnd, .closeObject, .object fields _ :: outer =>
    some (deliver outer (.object fields.reverse))
  | .colon, .colon, frames => some ⟨frames, .value⟩
  | .commaOrEnd, .comma, .array items :: outer => some ⟨.array items :: outer, .value⟩
  | .commaOrEnd, .comma, .object fields name :: outer =>
    some ⟨.object fields name :: outer, .name⟩
  | .commaOrEnd, .closeArray, .array items :: outer =>
    some (deliver outer (.array items.reverse))
  | .commaOrEnd, .closeObject, .object fields _ :: outer =>
    some (deliver outer (.object fields.reverse))
  | _, _, _ => none

/-- The effect of a sequence of tokens. -/
def run : State → List Token → Option State
  | state, [] => some state
  | state, token :: rest => (step state token).bind fun next => run next rest

/-- The state before anything has been read. -/
def start : State := ⟨[], .value⟩

/-- **The tree that a text spells.** -/
def tree? (s : List Char) : Option Tree :=
  ((tokens? s).bind (run start)).bind fun state =>
    match state.expect with
    | .done t => some t
    | _ => none

end RecordFlow.Json
