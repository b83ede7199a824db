import RecordFlow.Pipeline.Definition
import RecordFlow.Proofs.Step.OptionFields

/-!
# Reading a definition back

A definition of a pipeline that has been read from a value is written as a value from which the
same definition is read (`PipelineDefinition.ofValue?_toValue`).  The two values need not be the
same: what was passed over is not written, and what was left out is written with its default.
But the steps make the same settings in both (`PipelineDefinition.optionsIn`).

The parts of a definition are read by codecs of their own, one inside the other, and every
record is described once by what its fields are read as (`StepDefinition.ReadFrom`,
`PipelineDefinition.ReadFrom`).  The target of a step is the one field that is not written where
it is absent.

## Main definitions

* `StepDefinition.codec`, `PipelineDefinition.codec` — definitions as they are written and read.
* `PipelineDefinition.optionsIn` — the settings that the steps in a value make.
-/

namespace RecordFlow

/-! ### Steps -/

namespace StepDefinition

variable {v : Value} {s : StepDefinition} {fields : Fields}

/-- The names of the fields of a step, in order. -/
def fieldNames : List String :=
  ["id", "field", "target", "type", "config", "optional"]

/-- **What the fields of a record are read as** when it is read as a step.  It is said field by
field, with the default where one is left out, so that it serves for reading and for reading
again. -/
structure ReadFrom (fields : Fields) (s : StepDefinition) : Prop where
  id : fields.required "id" Codec.string.decode = some s.id
  field : fields.required "field" Codec.string.decode = some s.field
  target : fields.optional "target" Codec.string.decode = some s.target
  kind : fields.required "type" Codec.string.decode = some s.kind
  options : fields.withDefault "config" {} Options.codec.decode = some s.options
  isOptional : fields.withDefault "optional" false Codec.bool.decode = some s.isOptional

theorem ofValue?_eq_some_iff :
    ofValue? v = some s ↔ ∃ fields, v.asRecord? fieldNames = some fields ∧ ReadFrom fields s := by
  constructor
  · intro h
    unfold ofValue? at h
    obtain ⟨fields, hfields, h⟩ := Option.bind_eq_some_iff.1 h
    obtain ⟨_, hid, h⟩ := Option.bind_eq_some_iff.1 h
    obtain ⟨_, hfield, h⟩ := Option.bind_eq_some_iff.1 h
    obtain ⟨_, htarget, h⟩ := Option.bind_eq_some_iff.1 h
    obtain ⟨_, hkind, h⟩ := Option.bind_eq_some_iff.1 h
    obtain ⟨_, hoptions, h⟩ := Option.bind_eq_some_iff.1 h
    obtain ⟨_, hoptional, h⟩ := Option.bind_eq_some_iff.1 h
    cases h
    exact ⟨fields, hfields, hid, hfield, htarget, hkind, hoptions, hoptional⟩
  · rintro ⟨fields, hfields, h⟩
    unfold ofValue?
    refine Option.bind_eq_some_iff.2 ⟨fields, hfields, ?_⟩
    refine Option.bind_eq_some_iff.2 ⟨_, h.id, ?_⟩
    refine Option.bind_eq_some_iff.2 ⟨_, h.field, ?_⟩
    refine Option.bind_eq_some_iff.2 ⟨_, h.target, ?_⟩
    refine Option.bind_eq_some_iff.2 ⟨_, h.kind, ?_⟩
    refine Option.bind_eq_some_iff.2 ⟨_, h.options, ?_⟩
    exact Option.bind_eq_some_iff.2 ⟨_, h.isOptional, rfl⟩

/-- The fields that a step is written as. -/
def written (s : StepDefinition) : List (String × Value) :=
  [("id", .str s.id), ("field", .str s.field), ("type", .str s.kind),
    ("config", s.options.toValue), ("optional", .bool s.isOptional)] ++
  s.target.toList.map fun target => ("target", .str target)

theorem nodup_written (s : StepDefinition) : (s.written.map Prod.fst).Nodup := by
  unfold written
  cases s.target with
  | none =>
    show ["id", "field", "type", "config", "optional"].Nodup
    decide
  | some target =>
    show ["id", "field", "type", "config", "optional", "target"].Nodup
    decide

/-- A field that is written is found. -/
theorem get?_written (i : Nat) {name : String} {value : Value}
    (h : s.written[i]? = some (name, value)) : (Fields.ofList s.written).get? name = some value :=
  Fields.get?_ofList_of_mem s.nodup_written (List.mem_of_getElem? h)

/-- **A target is read where one is written,** and none where none is. -/
theorem target_written (s : StepDefinition) :
    (Fields.ofList s.written).optional "target" Codec.string.decode = some s.target := by
  cases htarget : s.target with
  | none =>
    have hnot : "target" ∉ s.written.map Prod.fst := by
      rw [written, htarget]
      show "target" ∉ ["id", "field", "type", "config", "optional"]
      decide
    exact Fields.optional_eq_none_iff.2 (Or.inl (Fields.get?_ofList_of_notMem hnot))
  | some target =>
    have hwritten : s.written[5]? = some ("target", .str target) := by
      rw [written, htarget]
      rfl
    have hstr : Value.str target ≠ .null := Value.noConfusion
    exact Fields.optional_eq_some_iff.2 ⟨_, get?_written 5 hwritten, hstr, rfl⟩

theorem ReadFrom.written (h : ReadFrom fields s) : ReadFrom (Fields.ofList s.written) s where
  id := Codec.string.required_of_get? h.id (get?_written 0 rfl)
  field := Codec.string.required_of_get? h.field (get?_written 1 rfl)
  target := target_written s
  kind := Codec.string.required_of_get? h.kind (get?_written 2 rfl)
  options :=
    Options.codec.withDefault_of_get? Options.codec_default h.options (get?_written 3 rfl)
  isOptional := Codec.bool.withDefault_of_get? rfl h.isOptional (get?_written 4 rfl)

/-- **Steps as they are written and read.** -/
def codec : Codec StepDefinition where
  encode := toValue
  decode := ofValue?
  decode_encode h := by
    obtain ⟨fields, -, hread⟩ := ofValue?_eq_some_iff.1 h
    rw [ofValue?_eq_some_iff]
    exact ⟨_, rfl, hread.written⟩
  encode_ne_null _ _ := nofun

/-- The settings that a step in a value makes; without options it makes none. -/
def optionsIn (v : Value) : List String :=
  Options.namesIn ((((v.asRecord? fieldNames).getD []).get? "config").getD (.obj []))

theorem optionsIn_eq (h : ofValue? v = some s) : optionsIn v = s.options.setNames := by
  obtain ⟨fields, hfields, hread⟩ := ofValue?_eq_some_iff.1 h
  have hoptions := hread.options
  rw [optionsIn, hfields, Option.getD_some]
  unfold Fields.withDefault at hoptions
  split at hoptions
  · next hget =>
    rw [hget, ← Option.some.inj hoptions]
    exact Options.namesIn_eq (v := .obj []) rfl
  · next value hget =>
    rw [hget, Option.getD_some]
    exact Options.namesIn_eq hoptions

end StepDefinition

/-! ### Pipelines -/

namespace PipelineDefinition

variable {v : Value} {d : PipelineDefinition} {fields : Fields}

/-- The names of the fields of a pipeline, in order. -/
def fieldNames : List String :=
  ["name", "transforms"]

/-- **What the fields of a record are read as** when it is read as a pipeline, field by field and
with the defaults where some are left out. -/
structure ReadFrom (fields : Fields) (d : PipelineDefinition) : Prop where
  name : fields.optional "name" Codec.string.decode = some d.name
  steps : fields.withDefault "transforms" [] (Codec.list StepDefinition.codec).decode = some d.steps

theorem ofValue?_eq_some_iff :
    ofValue? v = some d ↔ ∃ fields, v.asRecord? fieldNames = some fields ∧ ReadFrom fields d := by
  constructor
  · intro h
    unfold ofValue? at h
    obtain ⟨fields, hfields, h⟩ := Option.bind_eq_some_iff.1 h
    obtain ⟨_, hname, h⟩ := Option.bind_eq_some_iff.1 h
    obtain ⟨_, hsteps, h⟩ := Option.bind_eq_some_iff.1 h
    cases h
    exact ⟨fields, hfields, hname, hsteps⟩
  · rintro ⟨fields, hfields, h⟩
    unfold ofValue?
    refine Option.bind_eq_some_iff.2 ⟨fields, hfields, ?_⟩
    refine Option.bind_eq_some_iff.2 ⟨_, h.name, ?_⟩
    exact Option.bind_eq_some_iff.2 ⟨_, h.steps, rfl⟩

/-- The fields that a pipeline is written as. -/
def written (d : PipelineDefinition) : List (String × Value) :=
  [("name", .ofOption .str d.name), ("transforms", .arr (d.steps.map StepDefinition.toValue))]

theorem get?_written (i : Nat) {name : String} {value : Value}
    (h : d.written[i]? = some (name, value)) :
    (Fields.ofList d.written).get? name = some value := by
  refine Fields.get?_ofList_of_mem ?_ (List.mem_of_getElem? h)
  show ["name", "transforms"].Nodup
  decide

theorem ReadFrom.written (h : ReadFrom fields d) : ReadFrom (Fields.ofList d.written) d where
  name := Codec.string.optional_of_get? h.name (get?_written 0 rfl)
  steps :=
    (Codec.list StepDefinition.codec).withDefault_of_get? rfl h.steps (get?_written 1 rfl)

/-- **Pipelines as they are written and read.** -/
def codec : Codec PipelineDefinition where
  encode := toValue
  decode := ofValue?
  decode_encode h := by
    obtain ⟨fields, -, hread⟩ := ofValue?_eq_some_iff.1 h
    rw [ofValue?_eq_some_iff]
    exact ⟨_, rfl, hread.written⟩
  encode_ne_null _ _ := nofun

/-- The steps in a value. -/
def stepsIn (v : Value) : List Value :=
  match ((v.asRecord? fieldNames).getD []).get? "transforms" with
  | some (.arr items) => items
  | _ => []

/-- **The settings that the steps in a value make,** step by step. -/
def optionsIn (v : Value) : List (List String) :=
  (stepsIn v).map StepDefinition.optionsIn

theorem map_optionsIn {items : List Value} {steps : List StepDefinition}
    (h : items.mapM StepDefinition.ofValue? = some steps) :
    items.map StepDefinition.optionsIn = steps.map fun s => s.options.setNames := by
  have hread := Codec.mapM_eq_some_iff.1 h
  clear h
  induction hread with
  | nil => rfl
  | cons hs _ ih => rw [List.map_cons, List.map_cons, StepDefinition.optionsIn_eq hs, ih]

theorem optionsIn_eq (h : ofValue? v = some d) :
    optionsIn v = d.steps.map fun s => s.options.setNames := by
  obtain ⟨fields, hfields, hread⟩ := ofValue?_eq_some_iff.1 h
  have hsteps := hread.steps
  rw [optionsIn, stepsIn, hfields, Option.getD_some]
  unfold Fields.withDefault at hsteps
  split at hsteps
  · next hget =>
    rw [hget, ← Option.some.inj hsteps]
    rfl
  · next value hget =>
    rw [hget]
    cases value with
    | arr items => exact map_optionsIn hsteps
    | _ => cases hsteps

/-- **A definition that has been read is read again** from the value it is written as, which is
then written again; and the steps make the same settings in that value.

The value need not be the one that was read: records may be written without the names of their
fields, fields of other names are passed over, and a setting that is null counts as none. -/
theorem ofValue?_toValue (h : ofValue? v = some d) :
    ofValue? d.toValue = some d ∧ (ofValue? d.toValue).map toValue = some d.toValue ∧
      optionsIn d.toValue = optionsIn v := by
  have hagain : ofValue? d.toValue = some d := codec.decode_encode h
  refine ⟨hagain, ?_, ?_⟩
  · rw [hagain, Option.map_some]
  · rw [optionsIn_eq hagain, optionsIn_eq h]

/-- A definition of two steps; the first has no options, and the second writes elsewhere. -/
def products : Value :=
  .obj [("name", .str "products"), ("transforms", .arr [
    .obj [("field", .str "name"), ("id", .str "t1"), ("type", .str "TRIM")],
    .obj [("config", .obj [("defaultValue", .bool false), ("suffix", .null),
        ("values", .obj [("published", .bool true)])]),
      ("field", .str "status"), ("id", .str "t2"), ("note", .str "stock"), ("optional", .bool true),
      ("target", .str "active"), ("type", .str "MAP")]])]

/-- What the definition of two steps is read as. -/
def productsRead : PipelineDefinition where
  name := some "products"
  steps := [
    { id := "t1", field := "name", kind := "TRIM" },
    { id := "t2", field := "status", target := some "active", kind := "MAP"
      options := { defaultValue := some (.bool false), values := some [("published", .bool true)] }
      isOptional := true }]

/-- A field that is unknown is passed over, and one that is null counts as absent. -/
theorem ofValue?_toValue_products : ofValue? products = some productsRead ∧
    ofValue? productsRead.toValue = some productsRead ∧
      optionsIn productsRead.toValue = [[], ["defaultValue", "values"]] := by
  have hread : ofValue? products = some productsRead := rfl
  obtain ⟨hagain, -, hoptions⟩ := ofValue?_toValue hread
  exact ⟨hread, hagain, hoptions⟩

end PipelineDefinition

end RecordFlow
