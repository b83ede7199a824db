import RecordFlow.Proofs.Json.Reading
import RecordFlow.Step.Conversion

/-!
# Values as JSON texts

The step that reads JSON undoes the one that writes it, in either layout, for data of a machine
that has no more than 127 levels.  The text of a value with more levels than these is left as it
is (`parseJson_toJson`).
-/

namespace RecordFlow.Step

/-- The text that is written in either layout is read as the value. -/
theorem parseJson_toJson_eq (o : Options) (v : Value) :
    parseJson (toJson o v) = (Json.reread? 127 v).getD (toJson o v) := by
  have hread :
      Json.IsReadAs (if o.pretty = some true then Json.indented v else Json.compact v) v := by
    split
    · exact Json.isReadAs_indentedAt v 0
    · exact Json.isReadAs_compact v
  rw [← Json.readWithin?_of_isReadAs hread, toJson, Value.text, parseJson, String.toList_ofList,
    Json.read?, Json.nestingLimit]

/-- **Reading undoes writing, down to the limit of nesting,** and leaves the text alone beyond.

The limit is that of the reader: the writer has none, so a value that is nested too deep is
written, and what it is written as stays a text.  Numbers are integers of 64 bits here, since a
floating-point number may be read as a neighbour of the one that was written. -/
theorem parseJson_toJson (o : Options) (v : Value) :
    (v.IsMachineData → v.depth ≤ 127 → parseJson (toJson o v) = v) ∧
      (127 < v.depth → parseJson (toJson o v) = toJson o v) := by
  constructor
  · intro hdata hdepth
    rw [parseJson_toJson_eq, Json.reread?_eq_some hdata hdepth, Option.getD_some]
  · intro hdepth
    rw [parseJson_toJson_eq, Json.reread?_eq_none hdepth, Option.getD_none]

/-- An object with a control character, a quote, a backslash and a letter beyond sixteen bits in
its names and strings, and arrays inside each other one more than the limit. -/
theorem parseJson_toJson_limits :
    parseJson (toJson { pretty := some true } (.obj [("", .arr []),
        ("\"\\\x01\n", .arr [.int (-2 ^ 63), .int (2 ^ 64 - 1), .obj [], .str "😀\x08"])])) =
      .obj [("", .arr []),
        ("\"\\\x01\n", .arr [.int (-2 ^ 63), .int (2 ^ 64 - 1), .obj [], .str "😀\x08"])] ∧
    parseJson (toJson {} ((fun v => .arr [v])^[128] .null)) =
      toJson {} ((fun v => .arr [v])^[128] .null) := by
  refine ⟨(parseJson_toJson _ _).1 ?_ (by decide), (parseJson_toJson _ _).2 ?_⟩
  · refine .obj (List.pairwise_pair.2 (by decide)) (List.forall_mem_cons.2 ⟨.arr nofun,
      List.forall_mem_singleton.2 (.arr ?_)⟩)
    have hleast : Value.IsMachineData (.int (-2 ^ 63)) := .int (by decide)
    have hgreatest : Value.IsMachineData (.int (2 ^ 64 - 1)) := .int (by decide)
    have hempty : Value.IsMachineData (.obj []) := .obj List.Pairwise.nil nofun
    simpa [hempty, Value.IsMachineData.str] using And.intro hleast hgreatest
  · rw [Value.depth_nested]
    decide

end RecordFlow.Step
