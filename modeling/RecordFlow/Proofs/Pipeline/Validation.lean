import RecordFlow.Proofs.Pipeline.Lookups

/-!
# What validation promises

Validation looks at the kinds of the steps and not at any record.  What it promises for runs is
this: whatever the record and the store, a run of a valid pipeline ends with a record, or at the
first required step whose target cannot be written when its turn comes (`EndsAtWrite`).  A run
without a store may also end at a required lookup, and in no other way.  No run of a valid
pipeline comes upon a required step of an unknown kind.

Conversely a required step of an unknown kind fails on every working record
(`countedFailure_perform_of_unknown`), so that no run gets past it
(`exists_error_of_countedFailure`); and the pipeline is not valid.

## Main definitions

* `CarriedOut.isBlocked` — whether a required step could not write its target.
* `EndsAtWrite` — a run ends with a record, or at the first such step.
* `UnknownKind` — nothing knows the kind of a step.
-/

namespace RecordFlow.Pipeline

variable {p : Pipeline} {access : LookupAccess} {now : Calendar.Instant}
variable {initial working : Value} {s : StepDefinition} {steps : List StepDefinition}
variable {carryOut : StepRunner} {earlier : List Find}

/-- Whether the step is required, and its target could not be written in the record that it
found. -/
def CarriedOut.isBlocked (c : CarriedOut) : Bool :=
  !c.step.isOptional && (c.before.obstacle? (segments c.step.targetField)).isSome

/-- **A run ends with a record, or at the first required step whose target cannot be written at
its turn,** with the failure that names this step.  This is the one failure that cannot be seen
before the run, as it depends on the record. -/
def EndsAtWrite (done : List CarriedOut) (result : Except PipelineError Value) : Prop :=
  match done.find? (·.isBlocked) with
  | none => ∃ out, result = .ok out
  | some c => ∃ o, c.before.obstacle? (segments c.step.targetField) = some o ∧
      result = .error (.configuration (o.message c.step.targetField) (some c.step.id))

/-- **Nothing knows the kind of a step:** it is no lookup, not built in and not added.  Such a
step fails whenever it is carried out, so that a valid pipeline has it as an optional step
only. -/
structure UnknownKind (p : Pipeline) (s : StepDefinition) : Prop where
  /-- The step is no lookup. -/
  not_lookup : s.kind ≠ StepKind.lookup.identifier
  /-- Its kind is not built in. -/
  not_builtIn : builtIn? s.kind = none
  /-- Its kind has not been added. -/
  not_custom : p.custom.lookup s.kind = none

/-! ### Validation, step by step -/

/-- A check of all steps succeeds if it succeeds on each. -/
theorem forM_eq_ok_iff {check : StepDefinition → Except PipelineError Unit} :
    steps.forM check = .ok () ↔ ∀ s ∈ steps, check s = .ok () := by
  induction steps with
  | nil => exact ⟨fun _ s hs => absurd hs List.not_mem_nil, fun _ => rfl⟩
  | cons s rest ih =>
    rw [show (s :: rest).forM check = (check s >>= fun _ => rest.forM check) from rfl,
      List.forall_mem_cons, ← ih]
    cases hs : check s with
    | error e =>
      refine ⟨?_, fun h => ?_⟩
      · intro h
        cases h
      · cases h.1
    | ok u => exact ⟨fun h => ⟨rfl, h⟩, fun h => h.2⟩

/-- **In a valid pipeline every required step is of a kind that is known.** -/
theorem exists_resolve_of_validate (hvalid : p.validate = .ok ()) (hs : s ∈ p.steps)
    (hrequired : s.isOptional = false) : ∃ resolved, p.resolve s = .ok resolved := by
  have hcheck := forM_eq_ok_iff.1 hvalid s hs
  rw [checkStep] at hcheck
  split at hcheck
  · cases hcheck
  · rw [hrequired] at hcheck
    cases hresolve : p.resolve s with
    | error e =>
      rw [hresolve] at hcheck
      cases hcheck
    | ok resolved => exact ⟨resolved, rfl⟩

/-- A step is a lookup only if its kind says so. -/
theorem kind_of_resolve_lookup (h : p.resolve s = .ok .lookup) :
    s.kind = StepKind.lookup.identifier := by
  by_contra hne
  rcases resolve_of_ne hne with ⟨handler, hhandler⟩ | hunknown
  · rw [hhandler] at h
    cases h
  · rw [hunknown] at h
    cases h

/-- A step of an unknown kind is not resolved. -/
theorem UnknownKind.resolve_eq (h : UnknownKind p s) :
    p.resolve s = .error (.unknownKind s.kind s.field) := by
  rw [resolve, if_neg h.not_lookup, h.not_builtIn, h.not_custom]
  rfl

/-! ### How one step fails -/

/-- With a store, a step of a known kind fails only if its target cannot be written. -/
theorem failure_performWithLookup {resolved : ResolvedStep} (h : p.resolve s = .ok resolved) :
    (p.performWithLookup access now initial earlier working s).failure =
      (working.obstacle? (segments s.targetField)).map fun o =>
        .configuration (o.message s.targetField) (some s.id) := by
  rw [performWithLookup, h]
  exact failure_writeResult s working _ _

/-- Without a store, a step of a known kind fails if its target cannot be written, or because it
is a lookup. -/
theorem failure_perform (now : Calendar.Instant) (initial working : Value)
    {resolved : ResolvedStep} (h : p.resolve s = .ok resolved) :
    (p.perform now initial working s).failure =
        ((working.obstacle? (segments s.targetField)).map fun o =>
          .configuration (o.message s.targetField) (some s.id)) ∨
      s.kind = StepKind.lookup.identifier ∧
        (p.perform now initial working s).failure = some (.needsStore s.kind) := by
  cases resolved with
  | handler handler =>
    left
    rw [perform, h]
    exact failure_writeResult s working _ _
  | lookup =>
    right
    rw [perform, h]
    exact ⟨kind_of_resolve_lookup h, rfl⟩

/-- Without a store, a required step of an unknown kind fails on every working record. -/
theorem countedFailure_perform_of_unknown (hrequired : s.isOptional = false)
    (h : UnknownKind p s) :
    countedFailure s (p.perform now initial working s) =
      some (.unknownKind s.kind s.field) := by
  rw [countedFailure_of_required hrequired, perform, h.resolve_eq]

/-- A store does not help against an unknown kind. -/
theorem countedFailure_performWithLookup_of_unknown (hrequired : s.isOptional = false)
    (h : UnknownKind p s) :
    countedFailure s (p.performWithLookup access now initial earlier working s) =
      some (.unknownKind s.kind s.field) := by
  rw [performWithLookup_of_ne h.not_lookup, countedFailure_perform_of_unknown hrequired h]

/-! ### How a run ends -/

/-- **A run ends at a write, or as some required step says.**  If every required step fails only
because of its target, or else with a failure of another kind, then the run ends with the first
of these failures, or with a record. -/
theorem endsAtWrite_runSteps (carryOut : StepRunner) (earlier : List Find)
    (steps : List StepDefinition) (working : Value) (Other : StepDefinition → PipelineError → Prop)
    (hfails : ∀ s ∈ steps, s.isOptional = false → ∀ earlier w,
      (carryOut earlier w s).failure = ((w.obstacle? (segments s.targetField)).map fun o =>
        .configuration (o.message s.targetField) (some s.id)) ∨
      ∃ e, Other s e ∧ (carryOut earlier w s).failure = some e) :
    (∃ s ∈ steps, s.isOptional = false ∧ ∃ e, Other s e ∧
      (runSteps carryOut earlier steps working).1 = .error e) ∨
    EndsAtWrite (carriedOut carryOut earlier steps working)
      (runSteps carryOut earlier steps working).1 := by
  induction steps generalizing earlier working with
  | nil => exact Or.inr ⟨working, rfl⟩
  | cons s rest ih =>
    obtain ⟨hs, hrest⟩ := List.forall_mem_cons.1 hfails
    -- what the rest of the run comes to, should the run get there
    have hlater := ih (earlier ++ (carryOut earlier working s).effects.finds)
      (carryOut earlier working s).record hrest
    have hgoOn (hcounted : countedFailure s (carryOut earlier working s) = none)
        (hblocked : (CarriedOut.mk s earlier working (carryOut earlier working s)).isBlocked =
          false) :
        (∃ t ∈ s :: rest, t.isOptional = false ∧ ∃ e, Other t e ∧
          (runSteps carryOut earlier (s :: rest) working).1 = .error e) ∨
        EndsAtWrite (carriedOut carryOut earlier (s :: rest) working)
          (runSteps carryOut earlier (s :: rest) working).1 := by
      rw [runSteps_cons, carriedOut, hcounted, EndsAtWrite, List.find?_cons, hblocked]
      refine hlater.imp_left ?_
      rintro ⟨t, ht, hother⟩
      exact ⟨t, List.mem_cons_of_mem s ht, hother⟩
    cases hoptional : s.isOptional with
    | true =>
      refine hgoOn (countedFailure_of_isOptional hoptional) ?_
      rw [CarriedOut.isBlocked, hoptional]
      rfl
    | false =>
      have hcounted : countedFailure s (carryOut earlier working s) =
          (carryOut earlier working s).failure := countedFailure_of_required hoptional
      rcases hs hoptional earlier working with hwrite | ⟨e, he, hfailure⟩
      · cases hobstacle : working.obstacle? (segments s.targetField) with
        | none =>
          refine hgoOn ?_ ?_
          · rw [hcounted, hwrite, hobstacle, Option.map_none]
          · simp only [CarriedOut.isBlocked, hobstacle, Option.isSome_none, Bool.and_false]
        | some o =>
          have hblocked : (CarriedOut.mk s earlier working
              (carryOut earlier working s)).isBlocked = true := by
            simp only [CarriedOut.isBlocked, hobstacle, hoptional]
            rfl
          right
          rw [runSteps_cons, carriedOut, hcounted, hwrite, hobstacle, EndsAtWrite,
            List.find?_cons, hblocked]
          exact ⟨o, hobstacle, rfl⟩
      · left
        rw [runSteps_cons, hcounted, hfailure]
        exact ⟨s, List.mem_cons_self, hoptional, e, he, rfl⟩

/-- No run gets past a step that always fails. -/
theorem exists_error_of_countedFailure (hs : s ∈ steps)
    (hfails : ∀ earlier w, (countedFailure s (carryOut earlier w s)).isSome = true) :
    ∃ e, (runSteps carryOut earlier steps working).1 = .error e := by
  induction steps generalizing earlier working with
  | nil => cases hs
  | cons t rest ih =>
    rw [runSteps_cons]
    cases hcounted : countedFailure t (carryOut earlier working t) with
    | some e => exact ⟨e, rfl⟩
    | none =>
      rcases List.mem_cons.1 hs with rfl | hs
      · have hsome := hfails earlier working
        rw [hcounted] at hsome
        cases hsome
      · exact ih hs

/-- A run that ends at a write does not fail for an unknown kind. -/
theorem EndsAtWrite.ne_unknownKind {done : List CarriedOut} {result : Except PipelineError Value}
    (h : EndsAtWrite done result) (kind field : String) :
    result ≠ .error (.unknownKind kind field) := by
  rintro rfl
  rw [EndsAtWrite] at h
  split at h
  · obtain ⟨out, hout⟩ := h
    cases hout
  · obtain ⟨o, -, ho⟩ := h
    cases ho

/-- **A run of a valid pipeline with a store** ends with a record, or at a required step whose
target cannot be written. -/
theorem endsAtWrite_applyWithLookup (hvalid : p.validate = .ok ()) (access : LookupAccess)
    (now : Calendar.Instant) (record : Value) :
    EndsAtWrite (carriedOut (p.performWithLookup access now record) [] p.steps record)
      (p.applyWithLookup access now record).1 := by
  have hrun := endsAtWrite_runSteps (p.performWithLookup access now record) [] p.steps record
    (fun _ _ => False) (by
      intro s hs hrequired _ w
      obtain ⟨resolved, hresolved⟩ := exists_resolve_of_validate hvalid hs hrequired
      exact Or.inl (failure_performWithLookup hresolved))
  rcases hrun with ⟨s, hs, hrequired, e, hfalse, hresult⟩ | hends
  · exact hfalse.elim
  · exact hends

/-- **A run of a valid pipeline without a store** ends in the same ways, or at a required
lookup. -/
theorem endsAtWrite_apply (hvalid : p.validate = .ok ()) (now : Calendar.Instant)
    (record : Value) :
    (∃ s ∈ p.steps, s.isOptional = false ∧ s.kind = StepKind.lookup.identifier ∧
        p.apply now record = .error (.needsStore s.kind)) ∨
      EndsAtWrite (carriedOut (fun _ => p.perform now record) [] p.steps record)
        (p.apply now record) := by
  have hrun := endsAtWrite_runSteps (fun _ => p.perform now record) [] p.steps record
    (fun s e => s.kind = StepKind.lookup.identifier ∧ e = .needsStore s.kind) (by
      intro s hs hrequired _ w
      obtain ⟨resolved, hresolved⟩ := exists_resolve_of_validate hvalid hs hrequired
      rcases failure_perform now record w hresolved with hwrite | ⟨hkind, hfailure⟩
      · exact Or.inl hwrite
      · exact Or.inr ⟨_, ⟨hkind, rfl⟩, hfailure⟩)
  refine hrun.imp_left ?_
  rintro ⟨s, hs, hrequired, e, ⟨hkind, rfl⟩, hresult⟩
  exact ⟨s, hs, hrequired, hkind, hresult⟩

/-- A pipeline with a required step of an unknown kind is not valid. -/
theorem exists_error_validate (hs : s ∈ p.steps) (hrequired : s.isOptional = false)
    (hunknown : UnknownKind p s) : ∃ e, p.validate = .error e := by
  cases hvalid : p.validate with
  | error e => exact ⟨e, rfl⟩
  | ok u =>
    obtain ⟨resolved, hresolved⟩ := exists_resolve_of_validate hvalid hs hrequired
    rw [hunknown.resolve_eq] at hresolved
    cases hresolved

/-- **Validation is sound for runs.**  Of a valid pipeline, a run with any store ends with a
record or at the first required step whose target cannot be written at its turn; a run without a
store ends so too, or at a required lookup.  Neither comes upon an unknown kind.  A pipeline
with a required step of an unknown kind is not valid, and no run of it succeeds. -/
theorem endsAtWrite_of_validate (p : Pipeline) :
    (p.validate = .ok () → ∀ now record,
      (∀ access,
        EndsAtWrite (carriedOut (p.performWithLookup access now record) [] p.steps record)
          (p.applyWithLookup access now record).1 ∧
        ∀ kind field, (p.applyWithLookup access now record).1 ≠
          .error (.unknownKind kind field)) ∧
      ((∃ s ∈ p.steps, s.isOptional = false ∧ s.kind = StepKind.lookup.identifier ∧
          p.apply now record = .error (.needsStore s.kind)) ∨
        EndsAtWrite (carriedOut (fun _ => p.perform now record) [] p.steps record)
          (p.apply now record)) ∧
      ∀ kind field, p.apply now record ≠ .error (.unknownKind kind field)) ∧
    ((∃ s ∈ p.steps, s.isOptional = false ∧ UnknownKind p s) →
      (∃ e, p.validate = .error e) ∧
      ∀ now record, (∃ e, p.apply now record = .error e) ∧
        ∀ access, ∃ e, (p.applyWithLookup access now record).1 = .error e) := by
  constructor
  · intro hvalid now record
    refine ⟨?_, endsAtWrite_apply hvalid now record, ?_⟩
    · intro access
      have hends := endsAtWrite_applyWithLookup hvalid access now record
      exact ⟨hends, hends.ne_unknownKind⟩
    · intro kind field
      rcases endsAtWrite_apply hvalid now record with ⟨s, -, -, -, hresult⟩ | hends
      · rw [hresult]
        intro h
        cases h
      · exact hends.ne_unknownKind kind field
  · rintro ⟨s, hs, hrequired, hunknown⟩
    refine ⟨exists_error_validate hs hrequired hunknown, ?_⟩
    intro now record
    refine ⟨?_, ?_⟩
    · refine exists_error_of_countedFailure hs ?_
      intro _ w
      rw [countedFailure_perform_of_unknown hrequired hunknown]
      rfl
    · intro access
      refine exists_error_of_countedFailure hs ?_
      intro earlier w
      rw [countedFailure_performWithLookup_of_unknown hrequired hunknown]
      rfl

/-- A write, two optional steps that fail, a required lookup, and a required step that writes
into a text. -/
def intoText : Pipeline where
  steps := [
    { id := "1", field := "name", target := some "tag.label", kind := "SHOUT" },
    { id := "2", field := "name", kind := "?", isOptional := true },
    { id := "3", field := "name", target := some "name.first", kind := "TRIM",
      isOptional := true },
    { id := "4", field := "name", target := some "code", kind := "LOOKUP" },
    { id := "5", field := "name", target := some "tag.label.first", kind := "TRIM" }]
  custom := [("SHOUT", fun _ _ v => v)]

/-- A record with a name. -/
def ann : Value :=
  .obj [("name", .str "ann")]

/-- A valid pipeline runs up to the write into a text.  Without the handler that was added to
it, it is not valid and does not run. -/
theorem endsAtWrite_of_validate_intoText :
    intoText.validate = .ok () ∧
    EndsAtWrite
      (carriedOut (intoText.performWithLookup ⟨({} : Inventory).store, {}⟩ ⟨0, 0⟩ ann) []
        intoText.steps ann)
      (intoText.applyWithLookup ⟨({} : Inventory).store, {}⟩ ⟨0, 0⟩ ann).1 ∧
    ((carriedOut (intoText.performWithLookup ⟨({} : Inventory).store, {}⟩ ⟨0, 0⟩ ann) []
      intoText.steps ann).find? (·.isBlocked)).map (·.step.id) = some "5" ∧
    (∀ kind field, intoText.apply ⟨0, 0⟩ ann ≠ .error (.unknownKind kind field)) ∧
    (∃ e, { intoText with custom := [] }.validate = .error e) ∧
    ∃ e, { intoText with custom := [] }.apply ⟨0, 0⟩ ann = .error e := by
  have hvalid : intoText.validate = .ok () := by rfl
  obtain ⟨hwith, -, hwithout⟩ := (endsAtWrite_of_validate intoText).1 hvalid ⟨0, 0⟩ ann
  have hunknown : ∃ s ∈ intoText.steps, s.isOptional = false ∧
      UnknownKind { intoText with custom := [] } s :=
    ⟨_, List.mem_cons_self, rfl, ⟨by decide +kernel, by rfl, by rfl⟩⟩
  obtain ⟨hinvalid, hfails⟩ :=
    (endsAtWrite_of_validate { intoText with custom := [] }).2 hunknown
  exact ⟨hvalid, (hwith _).1, by decide +kernel, hwithout, hinvalid, (hfails ⟨0, 0⟩ ann).1⟩

end RecordFlow.Pipeline
