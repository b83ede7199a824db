import RecordFlow.Value.Shape
import RecordFlow.Yaml.Scalar

/-!
# Nodes of YAML

A text in YAML is a tree of scalars, sequences and mappings.  Which value a plain scalar
has depends on what it is for: where a text is wanted, it is its own text, and elsewhere
it has its meaning.  A record is read for its known fields: each of them may stand there
once, and fields of other names are passed over.

## Main definitions

* `Yaml.Node` — a tree.
* `Yaml.Node.value?` — the value of a tree that is for something.
-/

namespace RecordFlow.Yaml

/-- **A tree of scalars, sequences and mappings.** -/
inductive Node where
  /-- A scalar without quotes. -/
  | plain (s : List Char)
  /-- A scalar in quotes. -/
  | quoted (s : List Char)
  /-- A sequence. -/
  | sequence (items : List Node)
  /-- A mapping, with all its fields as they are written. -/
  | mapping (fields : List (String × Node))

instance : Inhabited Node := ⟨.plain []⟩

/-- The value of a plain scalar that is for something. -/
def scalarValue? (s : List Char) : Shape → Option Value
  | .text => some (.text s)
  | .optionalText => some (if String.ofList s ∈ nullWords then .null else .text s)
  | _ => plainValue? s

namespace Node

mutual

/-- **The value of a tree** that is for something.  Of two fields of one name the later
counts, except in a record. -/
def value? (shape : Shape) : Node → Option Value
  | plain s => scalarValue? s shape
  | quoted s => some (.text s)
  | sequence items => (itemValues? shape.ofItem items).map .arr
  | mapping fields =>
    match shape with
    | .record known => (knownValues? known fields).map fun pairs => .obj (Fields.ofList pairs)
    | _ => (fieldValues? fields).map fun pairs => .obj (Fields.ofList pairs)

/-- The values of the items of a sequence. -/
def itemValues? (shape : Shape) : List Node → Option (List Value)
  | [] => some []
  | item :: rest => do
    let value ← value? shape item
    let values ← itemValues? shape rest
    return value :: values

/-- The values of the fields of a mapping. -/
def fieldValues? : List (String × Node) → Option (List (String × Value))
  | [] => some []
  | (name, node) :: rest => do
    let value ← value? .data node
    let values ← fieldValues? rest
    return (name, value) :: values

/-- The values of the known fields of a record, each of which may stand there once. -/
def knownValues? (known : List (String × Shape)) :
    List (String × Node) → Option (List (String × Value))
  | [] => some []
  | (name, node) :: rest => do
    let values ← knownValues? known rest
    match known.lookup name with
    | none => return values
    | some shape =>
      if values.any (·.1 == name) then none
      else return (name, ← value? shape node) :: values

end

end Node

end RecordFlow.Yaml
