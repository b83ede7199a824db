import RecordFlow.Proofs.Pipeline.Steps

/-!
# What a run leaves alone

A run changes what its targets name and nothing else.  This is the locality of a write
(`Value.resolve?_write`), carried through the steps: whatever objects a step opens on the way to
its target, and whichever optional steps fail, what stands at a path that parts ways with every
target is there as before, or missing as before.
-/

namespace RecordFlow.Pipeline

variable {p : Pipeline} {path : String} {record : Value}

/-- What stands at a path that parts ways with the targets of some steps stays. -/
theorem resolve?_runSteps {carryOut : StepRunner} {earlier : List Find}
    {working out : Value} {steps : List StepDefinition}
    (hout : ∀ earlier w s, PossibleOutcome s w (carryOut earlier w s))
    (hpath : ∀ s ∈ steps, PathsPart s.targetField path)
    (hrun : (runSteps carryOut earlier steps working).1 = .ok out) :
    out.resolve? path = working.resolve? path := by
  refine runSteps_preserves (fun w => w.resolve? path = working.resolve? path) ?_ rfl hrun
  intro s hs earlier w hw
  rw [(hout earlier w s).resolve?_eq (hpath s hs), hw]

/-- **A run changes only what its targets name.**  What stands at a path that parts ways with
the target of every step is the same after the run, without a store or with any.

It is not enough that no target is the path: a write at a beginning of the path, or below it,
changes what stands there, and `01` is the same item of an array as `1`. -/
theorem resolve?_of_pathsPart (hpath : ∀ s ∈ p.steps, PathsPart s.targetField path) :
    (∀ now out, p.apply now record = .ok out → out.resolve? path = record.resolve? path) ∧
    (∀ access now out, (p.applyWithLookup access now record).1 = .ok out →
      out.resolve? path = record.resolve? path) := by
  constructor
  · intro now out hrun
    exact resolve?_runSteps (fun _ => p.possibleOutcome_perform now record) hpath hrun
  · intro access now out hrun
    exact resolve?_runSteps (p.possibleOutcome_performWithLookup access now record) hpath hrun

/-- A write through null, a write into an item of an array, and a step that fails. -/
def threeWrites : Pipeline where
  steps := [
    { id := "1", field := "name", target := some "address.city", kind := "TRIM" },
    { id := "2", field := "name", target := some "lines.+1.note", kind := "UPPERCASE" },
    { id := "3", field := "name", kind := "?", isOptional := true }]

/-- An order of two lines. -/
def twoLines : Value :=
  .obj [("address", .null), ("lines", .arr [.obj [("sku", .str "A")], .obj [("sku", .str "B")]]),
    ("name", .str "ann")]

/-- A write into the second item leaves the other fields of that item alone, however its index
is spelled. -/
theorem resolve?_of_pathsPart_sku :
    (∃ out, threeWrites.apply ⟨0, 0⟩ twoLines = .ok out ∧
      out.resolve? "lines.01.sku" = some (.str "B")) ∧
    (∃ out, (threeWrites.applyWithLookup ⟨({} : Inventory).store, {}⟩ ⟨0, 0⟩ twoLines).1 = .ok out ∧
      out.resolve? "lines.01.sku" = some (.str "B")) := by
  have hpath : ∀ s ∈ threeWrites.steps, PathsPart s.targetField "lines.01.sku" := by
    decide +kernel
  have hkept : twoLines.resolve? "lines.01.sku" = some (.str "B") := by
    have hsegments : segments "lines.01.sku" = ["lines", "01", "sku"] := by decide +kernel
    rw [Value.resolve?, hsegments]
    rfl
  obtain ⟨out, hout⟩ := exists_ok_of_isOk
    (show (threeWrites.apply ⟨0, 0⟩ twoLines).isOk = true by decide +kernel)
  obtain ⟨found, hfound⟩ := exists_ok_of_isOk
    (show (threeWrites.applyWithLookup ⟨({} : Inventory).store, {}⟩ ⟨0, 0⟩ twoLines).1.isOk =
      true by decide +kernel)
  exact ⟨⟨out, hout, ((resolve?_of_pathsPart hpath).1 _ out hout).trans hkept⟩,
    ⟨found, hfound, ((resolve?_of_pathsPart hpath).2 _ _ found hfound).trans hkept⟩⟩

end RecordFlow.Pipeline
