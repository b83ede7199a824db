import RecordFlow.Value.Decode

/-!
# Options of a step

Every kind of step reads its settings from one record of options.  All of them may be
left out, and each kind of step looks only at those it knows.

## Main definitions

* `LookupMode`, `PadSide`, `MathOperation` — the named choices.
* `Options` — the settings.
* `Options.ofValue?`, `Options.toValue` — the options in an object of data, and back.
-/

namespace RecordFlow

/-- **Where a lookup finds its answer.** -/
inductive LookupMode where
  /-- In the store of entities. -/
  | entity
  /-- In the table of the options. -/
  | static
deriving DecidableEq

/-- The names of the modes of a lookup. -/
def LookupMode.names : List (String × LookupMode) :=
  [("entity", .entity), ("static", .static)]

/-- **The side on which padding goes.** -/
inductive PadSide where
  | start
  | finish
deriving DecidableEq

/-- The names of the sides. -/
def PadSide.names : List (String × PadSide) :=
  [("start", .start), ("end", .finish)]

/-- **The operations of arithmetic steps.** -/
inductive MathOperation where
  | add
  | subtract
  | multiply
  | divide
  | modulo
  | power
deriving DecidableEq

/-- The names of the operations. -/
def MathOperation.names : List (String × MathOperation) :=
  [("add", .add), ("subtract", .subtract), ("multiply", .multiply), ("divide", .divide),
    ("modulo", .modulo), ("power", .power)]

/-- **The settings of a step.** -/
structure Options where
  /-- The condition of a choice. -/
  condition : Option String := none
  /-- The expression that is computed, or by which items are chosen. -/
  expression : Option String := none
  /-- The result when the condition holds. -/
  thenValue : Option Value := none
  /-- The result when the condition does not hold. -/
  elseValue : Option Value := none
  /-- Paths of the record. -/
  fields : Option (List String) := none
  /-- The result when there is nothing else. -/
  defaultValue : Option Value := none
  /-- A table from texts to values. -/
  values : Option Fields := none
  /-- Whether the table tells upper from lower case. -/
  caseSensitive : Option Bool := none
  /-- Where a lookup finds its answer. -/
  lookupMode : Option LookupMode := none
  /-- The type of entity that is looked for. -/
  entityType : Option String := none
  /-- The path of an entity that must equal the value. -/
  fromField : Option String := none
  /-- The path of an entity that is the answer. -/
  toField : Option String := none
  /-- The greatest length of a text. -/
  maxLength : Option Nat := none
  /-- What marks a text as cut. -/
  suffix : Option String := none
  /-- The length to which a text is padded. -/
  padLength : Option Nat := none
  /-- What a text is padded with. -/
  padChar : Option String := none
  /-- Where the padding goes. -/
  padSide : Option PadSide := none
  /-- The text that is replaced. -/
  search : Option String := none
  /-- What it is replaced by. -/
  replacement : Option String := none
  /-- A regular expression. -/
  pattern : Option String := none
  /-- Its flags. -/
  flags : Option String := none
  /-- The group of it that is extracted. -/
  group : Option Nat := none
  /-- What stands between the parts of a text. -/
  delimiter : Option String := none
  /-- What is put between parts. -/
  separator : Option String := none
  /-- A template. -/
  template : Option String := none
  /-- The number of decimal places. -/
  decimals : Option Nat := none
  /-- The decimal point of a numeral. -/
  decimalSeparator : Option String := none
  /-- The mark between groups of digits of a numeral. -/
  thousandsSeparator : Option String := none
  /-- An operation of arithmetic. -/
  operation : Option MathOperation := none
  /-- Its right operand. -/
  operand : Option Binary64 := none
  /-- The pattern of a date that is written. -/
  format : Option String := none
  /-- The pattern of a date that is read. -/
  inputFormat : Option String := none
  /-- The pattern of a date that is written, when there is no other. -/
  outputFormat : Option String := none
  /-- The texts that count as true. -/
  trueValues : Option (List String) := none
  /-- The texts that count as false. -/
  falseValues : Option (List String) := none
  /-- The position of an item. -/
  index : Option Int := none
  /-- The number of levels of nesting. -/
  depth : Option Nat := none
  /-- Whether data is written on indented lines. -/
  pretty : Option Bool := none

namespace Options

/-- The names of the options in data, in order. -/
def fieldNames : List String := [
  "condition", "expression", "thenValue", "elseValue", "fields", "defaultValue", "values",
  "caseSensitive", "lookupType", "entityType", "fromField", "toField", "maxLength", "suffix",
  "padLength", "padChar", "padPosition", "search", "replacement", "pattern", "flags",
  "group", "delimiter", "separator", "template", "decimals", "decimalSeparator",
  "thousandsSeparator", "operation", "operand", "format", "inputFormat", "outputFormat",
  "trueValues", "falseValues", "index", "depth", "pretty"]

/-- **The options in a record of data.**  Fields of other names are passed over, and
null counts as absent. -/
def ofValue? (v : Value) : Option Options := do
  let o ← v.asRecord? fieldNames
  return {
    condition := ← o.optional "condition" Value.asString?
    expression := ← o.optional "expression" Value.asString?
    thenValue := ← o.optional "thenValue" some
    elseValue := ← o.optional "elseValue" some
    fields := ← o.optional "fields" (Value.asList? Value.asString?)
    defaultValue := ← o.optional "defaultValue" some
    values := ← o.optional "values" Value.asFields?
    caseSensitive := ← o.optional "caseSensitive" Value.asBool?
    lookupMode := ← o.optional "lookupType" (Value.asChoice? LookupMode.names)
    entityType := ← o.optional "entityType" Value.asString?
    fromField := ← o.optional "fromField" Value.asString?
    toField := ← o.optional "toField" Value.asString?
    maxLength := ← o.optional "maxLength" Value.asNat?
    suffix := ← o.optional "suffix" Value.asString?
    padLength := ← o.optional "padLength" Value.asNat?
    padChar := ← o.optional "padChar" Value.asString?
    padSide := ← o.optional "padPosition" (Value.asChoice? PadSide.names)
    search := ← o.optional "search" Value.asString?
    replacement := ← o.optional "replacement" Value.asString?
    pattern := ← o.optional "pattern" Value.asString?
    flags := ← o.optional "flags" Value.asString?
    group := ← o.optional "group" Value.asNat?
    delimiter := ← o.optional "delimiter" Value.asString?
    separator := ← o.optional "separator" Value.asString?
    template := ← o.optional "template" Value.asString?
    decimals := ← o.optional "decimals" (Value.asNatBelow? (2 ^ 32))
    decimalSeparator := ← o.optional "decimalSeparator" Value.asString?
    thousandsSeparator := ← o.optional "thousandsSeparator" Value.asString?
    operation := ← o.optional "operation" (Value.asChoice? MathOperation.names)
    operand := ← o.optional "operand" Value.asFloat?
    format := ← o.optional "format" Value.asString?
    inputFormat := ← o.optional "inputFormat" Value.asString?
    outputFormat := ← o.optional "outputFormat" Value.asString?
    trueValues := ← o.optional "trueValues" (Value.asList? Value.asString?)
    falseValues := ← o.optional "falseValues" (Value.asList? Value.asString?)
    index := ← o.optional "index" Value.asInt?
    depth := ← o.optional "depth" Value.asNat?
    pretty := ← o.optional "pretty" Value.asBool?
  }

/-- The name of a choice as a value. -/
def choiceName {α : Type} [DecidableEq α] (choices : List (String × α)) (x : α) : Value :=
  .str (((choices.find? (·.2 = x)).map (·.1)).getD "")

/-- A list of strings as a value. -/
def strings (xs : List String) : Value :=
  .arr (xs.map .str)

/-- A natural number as a value. -/
def count (n : Nat) : Value :=
  .int n

/-- **The options as an object of data,** with null for each that is not set. -/
def toValue (o : Options) : Value :=
  .obj (Fields.ofList [
    ("condition", .ofOption .str o.condition),
    ("expression", .ofOption .str o.expression),
    ("thenValue", .ofOption id o.thenValue),
    ("elseValue", .ofOption id o.elseValue),
    ("fields", .ofOption strings o.fields),
    ("defaultValue", .ofOption id o.defaultValue),
    ("values", .ofOption .obj o.values),
    ("caseSensitive", .ofOption .bool o.caseSensitive),
    ("lookupType", .ofOption (choiceName LookupMode.names) o.lookupMode),
    ("entityType", .ofOption .str o.entityType),
    ("fromField", .ofOption .str o.fromField),
    ("toField", .ofOption .str o.toField),
    ("maxLength", .ofOption count o.maxLength),
    ("suffix", .ofOption .str o.suffix),
    ("padLength", .ofOption count o.padLength),
    ("padChar", .ofOption .str o.padChar),
    ("padPosition", .ofOption (choiceName PadSide.names) o.padSide),
    ("search", .ofOption .str o.search),
    ("replacement", .ofOption .str o.replacement),
    ("pattern", .ofOption .str o.pattern),
    ("flags", .ofOption .str o.flags),
    ("group", .ofOption count o.group),
    ("delimiter", .ofOption .str o.delimiter),
    ("separator", .ofOption .str o.separator),
    ("template", .ofOption .str o.template),
    ("decimals", .ofOption count o.decimals),
    ("decimalSeparator", .ofOption .str o.decimalSeparator),
    ("thousandsSeparator", .ofOption .str o.thousandsSeparator),
    ("operation", .ofOption (choiceName MathOperation.names) o.operation),
    ("operand", .ofOption (fun x => .num (.float x)) o.operand),
    ("format", .ofOption .str o.format),
    ("inputFormat", .ofOption .str o.inputFormat),
    ("outputFormat", .ofOption .str o.outputFormat),
    ("trueValues", .ofOption strings o.trueValues),
    ("falseValues", .ofOption strings o.falseValues),
    ("index", .ofOption .int o.index),
    ("depth", .ofOption count o.depth),
    ("pretty", .ofOption .bool o.pretty)])

end Options

end RecordFlow
