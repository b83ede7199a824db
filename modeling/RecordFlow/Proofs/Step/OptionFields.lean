import RecordFlow.Proofs.Value.Codecs
import RecordFlow.Step.Options

/-!
# The settings among the options

The options of a step are some dozens of settings, which are read and written alike: each has a
name in data, a place among the options, and a way of being written and read.  `OptionField.all`
lists them.  What the options are written as is the list, written field by field
(`Options.toValue_eq`), and they are read from a value if each setting of the list is read from
the field of its name (`Options.ofValue?_eq_some_iff`).  So what holds of one setting holds of
all of them: options that have been read are read again from what they are written as
(`Options.codec`), and a setting is there exactly where its field is (`Options.namesIn_eq`).

## Main definitions

* `OptionField` — one setting, and `OptionField.all`, the list of them.
* `Options.codec` — the options as they are written and read.
* `Options.namesIn` — the names of the settings that a value makes.
-/

namespace RecordFlow

/-- One of a few named choices. -/
def Codec.choice {α : Type} [DecidableEq α] (choices : List (String × α))
    (hnamed : ∀ x, Value.asChoice? choices (Options.choiceName choices x) = some x) : Codec α where
  encode := Options.choiceName choices
  decode := Value.asChoice? choices
  decode_encode _ := hnamed _
  encode_ne_null _ _ := nofun

/-- **A setting among the options:** its name in data, where it stands among the options, and
how it is written and read. -/
structure OptionField where
  /-- What the setting is of. -/
  {α : Type}
  /-- The name of the setting in data. -/
  name : String
  /-- The setting among the options. -/
  get : Options → Option α
  /-- How the setting is written and read. -/
  codec : Codec α

namespace OptionField

/-- **All settings,** in the order of their names in data. -/
def all : List OptionField := [
  ⟨"condition", (·.condition), .string⟩,
  ⟨"expression", (·.expression), .string⟩,
  ⟨"thenValue", (·.thenValue), .value⟩,
  ⟨"elseValue", (·.elseValue), .value⟩,
  ⟨"fields", (·.fields), .list .string⟩,
  ⟨"defaultValue", (·.defaultValue), .value⟩,
  ⟨"values", (·.values), .fields⟩,
  ⟨"caseSensitive", (·.caseSensitive), .bool⟩,
  ⟨"lookupType", (·.lookupMode), .choice LookupMode.names (fun x => by cases x <;> rfl)⟩,
  ⟨"entityType", (·.entityType), .string⟩,
  ⟨"fromField", (·.fromField), .string⟩,
  ⟨"toField", (·.toField), .string⟩,
  ⟨"maxLength", (·.maxLength), .nat (2 ^ 64)⟩,
  ⟨"suffix", (·.suffix), .string⟩,
  ⟨"padLength", (·.padLength), .nat (2 ^ 64)⟩,
  ⟨"padChar", (·.padChar), .string⟩,
  ⟨"padPosition", (·.padSide), .choice PadSide.names (fun x => by cases x <;> rfl)⟩,
  ⟨"search", (·.search), .string⟩,
  ⟨"replacement", (·.replacement), .string⟩,
  ⟨"pattern", (·.pattern), .string⟩,
  ⟨"flags", (·.flags), .string⟩,
  ⟨"group", (·.group), .nat (2 ^ 64)⟩,
  ⟨"delimiter", (·.delimiter), .string⟩,
  ⟨"separator", (·.separator), .string⟩,
  ⟨"template", (·.template), .string⟩,
  ⟨"decimals", (·.decimals), .nat (2 ^ 32)⟩,
  ⟨"decimalSeparator", (·.decimalSeparator), .string⟩,
  ⟨"thousandsSeparator", (·.thousandsSeparator), .string⟩,
  ⟨"operation", (·.operation), .choice MathOperation.names (fun x => by cases x <;> rfl)⟩,
  ⟨"operand", (·.operand), .float⟩,
  ⟨"format", (·.format), .string⟩,
  ⟨"inputFormat", (·.inputFormat), .string⟩,
  ⟨"outputFormat", (·.outputFormat), .string⟩,
  ⟨"trueValues", (·.trueValues), .list .string⟩,
  ⟨"falseValues", (·.falseValues), .list .string⟩,
  ⟨"index", (·.index), .int⟩,
  ⟨"depth", (·.depth), .nat (2 ^ 64)⟩,
  ⟨"pretty", (·.pretty), .bool⟩]

/-- The field that a setting is written as. -/
def written (e : OptionField) (o : Options) : String × Value :=
  (e.name, .ofOption e.codec.encode (e.get o))

theorem map_name_all : all.map (·.name) = Options.fieldNames := rfl

/-- **No two settings share a name,** so each is found among the written ones. -/
theorem get?_written {e : OptionField} (he : e ∈ all) (o : Options) :
    (Fields.ofList (all.map (·.written o))).get? e.name =
      some (.ofOption e.codec.encode (e.get o)) := by
  refine Fields.get?_ofList_of_mem ?_ (List.mem_map_of_mem he)
  have hnames : (all.map (·.written o)).map Prod.fst = Options.fieldNames := rfl
  rw [hnames]
  decide

end OptionField

namespace Options

open OptionField

variable {v : Value} {o : Options}

theorem toValue_eq (o : Options) : o.toValue = .obj (Fields.ofList (all.map (·.written o))) := rfl

/-- **Options are read setting by setting.** -/
theorem ofValue?_eq_some_iff :
    ofValue? v = some o ↔ ∃ fields, v.asRecord? fieldNames = some fields ∧
      ∀ e ∈ all, fields.optional e.name e.codec.decode = some (e.get o) := by
  simp only [all, List.forall_mem_cons]
  -- both sides are one reading after the other, in the order of the list
  constructor
  · intro h
    unfold ofValue? at h
    obtain ⟨fields, hfields, h⟩ := Option.bind_eq_some_iff.1 h
    iterate 38 obtain ⟨_, _, h⟩ := Option.bind_eq_some_iff.1 h
    cases h
    refine ⟨fields, hfields, ?_⟩
    iterate 38 refine ⟨by assumption, ?_⟩
    exact fun _ he => nomatch he
  · rintro ⟨fields, hfields, h⟩
    refine Option.bind_eq_some_iff.2 ⟨fields, hfields, ?_⟩
    iterate 38
      obtain ⟨hread, h⟩ := h
      refine Option.bind_eq_some_iff.2 ⟨_, hread, ?_⟩
    rfl

/-- **The options as they are written and read.** -/
def codec : Codec Options where
  encode := toValue
  decode := ofValue?
  decode_encode h := by
    obtain ⟨fields, -, hread⟩ := ofValue?_eq_some_iff.1 h
    rw [ofValue?_eq_some_iff, toValue_eq]
    exact ⟨_, rfl, fun e he => e.codec.optional_of_get? (hread e he) (get?_written he _)⟩
  encode_ne_null _ _ := nofun

/-- The options of which none is set are read from what they are written as. -/
theorem codec_default : codec.decode (codec.encode {}) = some {} :=
  codec.decode_encode (v := .obj []) rfl

/-- The names of the settings that are made. -/
def setNames (o : Options) : List String :=
  (all.filter fun e => (e.get o).isSome).map (·.name)

/-- The names of the settings that a value makes: of the fields that are there and not null. -/
def namesIn (v : Value) : List String :=
  fieldNames.filter ((v.asRecord? fieldNames).getD []).holds

/-- **A setting is made where its field is there and not null.** -/
theorem namesIn_eq (h : ofValue? v = some o) : namesIn v = o.setNames := by
  obtain ⟨fields, hfields, hread⟩ := ofValue?_eq_some_iff.1 h
  have hsame : ∀ e ∈ all, fields.holds e.name = (e.get o).isSome := fun e he =>
    Fields.holds_of_optional (hread e he)
  rw [namesIn, hfields, Option.getD_some, ← map_name_all, List.filter_map, setNames]
  exact congrArg (List.map _) (List.filter_congr hsame)

end Options

end RecordFlow
