import RecordFlow.Proofs.Pipeline.Steps

/-!
# Runs with a store and without one

The two ways to carry out a step differ in lookups only (`performWithLookup_of_ne`): with a
store a lookup asks it, and without one a lookup fails (`perform_of_lookup`).  Hence a pipeline
without lookups runs in the same way with a store and without, and asks nothing of it.  A run
without a store passes over the lookups that are optional, which may as well be deleted.

## Main definitions

* `Pipeline.withoutLookups` — the pipeline without its lookups.
-/

namespace RecordFlow.Pipeline

variable {p : Pipeline} {access : LookupAccess} {now : Calendar.Instant}
variable {initial working : Value} {s : StepDefinition} {steps : List StepDefinition}
variable {carryOut other : StepRunner} {earlier : List Find}

/-- The pipeline without its lookups. -/
def withoutLookups (p : Pipeline) : Pipeline :=
  { p with steps := p.steps.filter (·.kind != StepKind.lookup.identifier) }

/-! ### Runs and what they are made of -/

/-- Steps that come to the same make the same run. -/
theorem runSteps_congr (h : ∀ s ∈ steps, ∀ earlier w, carryOut earlier w s = other earlier w s) :
    runSteps carryOut earlier steps working = runSteps other earlier steps working := by
  induction steps generalizing earlier working with
  | nil => rfl
  | cons s rest ih =>
    obtain ⟨hs, hrest⟩ := List.forall_mem_cons.1 h
    rw [runSteps_cons, runSteps_cons, hs earlier working, ih hrest]

/-- A run of steps that ask nothing asks nothing. -/
theorem effects_runSteps (h : ∀ s ∈ steps, ∀ earlier w, (carryOut earlier w s).effects = .none) :
    (runSteps carryOut earlier steps working).2 = .none := by
  induction steps generalizing earlier working with
  | nil => rfl
  | cons s rest ih =>
    obtain ⟨hs, hrest⟩ := List.forall_mem_cons.1 h
    rw [runSteps_cons, hs earlier working]
    split
    · rfl
    -- no effects, and then none
    · rw [ih hrest]
      rfl

/-- **Steps that never do anything can be deleted.**  They may not ask anything either, or what
comes after them could find another store. -/
theorem runSteps_filter (keep : StepDefinition → Bool)
    (hidle : ∀ s ∈ steps, keep s = false → ∀ earlier w,
      countedFailure s (carryOut earlier w s) = none ∧ (carryOut earlier w s).record = w ∧
        (carryOut earlier w s).effects.finds = []) :
    (runSteps carryOut earlier (steps.filter keep) working).1 =
      (runSteps carryOut earlier steps working).1 := by
  induction steps generalizing earlier working with
  | nil => rfl
  | cons s rest ih =>
    obtain ⟨hs, hrest⟩ := List.forall_mem_cons.1 hidle
    cases hkeep : keep s with
    | true =>
      rw [List.filter_cons_of_pos hkeep, runSteps_cons, runSteps_cons]
      split
      · rfl
      · exact ih hrest
    | false =>
      obtain ⟨hcounted, hrecord, hfinds⟩ := hs hkeep earlier working
      rw [List.filter_cons_of_neg (Bool.eq_false_iff.1 hkeep), runSteps_cons, hcounted, hrecord,
        hfinds, List.append_nil]
      exact ih hrest

/-! ### The two ways to carry out a step -/

/-- Without a store a lookup fails. -/
theorem perform_of_lookup (h : s.kind = StepKind.lookup.identifier) :
    p.perform now initial working s = ⟨working, some (.needsStore s.kind), .none⟩ := by
  rw [perform, resolve_lookup h]

/-- Without a store nothing is asked. -/
theorem effects_perform : (p.perform now initial working s).effects = .none := by
  unfold perform
  split <;> rfl

/-- **A store makes no difference but to lookups.** -/
theorem performWithLookup_of_ne (h : s.kind ≠ StepKind.lookup.identifier) :
    p.performWithLookup access now initial earlier working s =
      p.perform now initial working s := by
  rcases resolve_of_ne h with ⟨handler, hhandler⟩ | hunknown
  · rw [performWithLookup, perform, hhandler]
  · rw [performWithLookup, perform, hunknown]

/-- Where no step requires a lookup, none is a lookup. -/
theorem requiresLookup_eq_false_iff :
    p.requiresLookup = false ↔ ∀ s ∈ p.steps, s.kind ≠ StepKind.lookup.identifier := by
  rw [requiresLookup, List.any_eq_false]
  simp only [beq_iff_eq, ne_eq]

/-- **Only lookups need a store.**  A pipeline without lookups comes to the same with a store as
without, and asks nothing of it; optional lookups of a run without a store could as well not
have been there. -/
theorem apply_of_lookups (p : Pipeline) (now : Calendar.Instant) (record : Value) :
    (p.requiresLookup = false → ∀ access,
      (p.applyWithLookup access now record).1 = p.apply now record ∧
      (p.applyWithLookup access now record).2.finds = [] ∧
      (p.applyWithLookup access now record).2.warnings = []) ∧
    ((∀ s ∈ p.steps, s.kind = StepKind.lookup.identifier → s.isOptional = true) →
      p.apply now record = p.withoutLookups.apply now record) := by
  constructor
  · intro hnone access
    have hne := requiresLookup_eq_false_iff.1 hnone
    have hrun : p.applyWithLookup access now record =
        runSteps (fun _ => p.perform now record) [] p.steps record := by
      refine runSteps_congr ?_
      intro s hs earlier w
      exact performWithLookup_of_ne (hne s hs)
    have heffects : (p.applyWithLookup access now record).2 = .none := by
      rw [hrun]
      exact effects_runSteps fun s _ _ w => effects_perform
    refine ⟨?_, ?_, ?_⟩
    · rw [hrun]
      rfl
    · rw [heffects]
      rfl
    · rw [heffects]
      rfl
  · intro hoptional
    -- a step that is not kept is a lookup, which fails and does not count
    refine (runSteps_filter _ ?_).symm
    intro s hs hkeep _ w
    have hkind : s.kind = StepKind.lookup.identifier := by
      simpa using hkeep
    rw [perform_of_lookup hkind]
    exact ⟨countedFailure_of_isOptional (hoptional s hs hkind), rfl, rfl⟩

/-- A pipeline without lookups, one step of which fails. -/
def stamped : Pipeline where
  steps := [
    { id := "1", field := "name", kind := "TRIM" },
    { id := "2", field := "name", target := some "name.first", kind := "TRIM",
      isOptional := true },
    { id := "3", field := "name", target := some "at", kind := "NOW" }]

/-- The same, with an optional lookup in between. -/
def stampedAfterLookup : Pipeline where
  steps := stamped.steps.take 2 ++
    { id := "4", field := "name", kind := "LOOKUP", isOptional := true } :: stamped.steps.drop 2

/-- Without lookups the run asks nothing of a store, and an optional lookup that has none may be
deleted. -/
theorem apply_of_lookups_stamped :
    (stamped.applyWithLookup ⟨({} : Inventory).store, {}⟩ ⟨0, 0⟩ (.obj [("name", .str " ann")])).1 =
      stamped.apply ⟨0, 0⟩ (.obj [("name", .str " ann")]) ∧
    (stamped.applyWithLookup ⟨({} : Inventory).store, {}⟩ ⟨0, 0⟩
      (.obj [("name", .str " ann")])).2.finds = [] ∧
    stampedAfterLookup.withoutLookups.steps.map (·.id) = ["1", "2", "3"] ∧
    stampedAfterLookup.apply ⟨0, 0⟩ (.obj [("name", .str " ann")]) =
      stampedAfterLookup.withoutLookups.apply ⟨0, 0⟩ (.obj [("name", .str " ann")]) := by
  have hnone : stamped.requiresLookup = false := by decide +kernel
  have hoptional : ∀ s ∈ stampedAfterLookup.steps,
      s.kind = StepKind.lookup.identifier → s.isOptional = true := by
    decide +kernel
  obtain ⟨hrun, hfinds, -⟩ := (apply_of_lookups stamped ⟨0, 0⟩ (.obj [("name", .str " ann")])).1
    hnone ⟨({} : Inventory).store, {}⟩
  exact ⟨hrun, hfinds, by decide +kernel,
    (apply_of_lookups stampedAfterLookup ⟨0, 0⟩ _).2 hoptional⟩

end RecordFlow.Pipeline
