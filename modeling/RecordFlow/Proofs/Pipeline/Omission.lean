import RecordFlow.Proofs.Pipeline.Steps

/-!
# Optional steps that fail

A step that fails leaves the working record as it was.  A run in which the optional steps that
failed are deleted therefore ends in the same record or in the same failure, as long as the
questions of these steps make no difference (`runSteps_remaining`).

That condition is needed.  A lookup whose answer cannot be written has asked for it all the
same, and a store that remembers its questions may answer the next one in another way
(`trace_of_failedLookup`).  There is no such difference without a store, with one that answers
equal questions equally, or where none of the deleted steps has asked anything.  What the
deleted steps have said is not said any more in any case; only the result of the run is the
same.

## Main definitions

* `CarriedOut.isPassedOver` — whether a step is optional and has failed.
* `Pipeline.remaining` — the steps without the optional ones that failed.
-/

namespace RecordFlow.Pipeline

variable {carryOut : StepRunner} {earlier : List Find}
variable {working : Value} {s : StepDefinition} {rest : List StepDefinition}

/-- Whether the step is optional and has failed.  The run goes on behind such a step, and the
log is told that it was passed over. -/
def CarriedOut.isPassedOver (c : CarriedOut) : Bool :=
  c.step.isOptional && c.outcome.failure.isSome

/-- **The steps that remain** when the optional ones that failed in a run are deleted.  Which
ones failed is settled by the run, so that the steps that it has not come to remain, whether
they would have failed or not. -/
def remaining (carryOut : StepRunner) (earlier : List Find) (steps : List StepDefinition)
    (working : Value) : List StepDefinition :=
  let done := carriedOut carryOut earlier steps working
  (done.filter (!·.isPassedOver)).map (·.step) ++ steps.drop done.length

/-- What remains when the first step is passed over. -/
theorem remaining_of_passedOver (ho : s.isOptional = true)
    (hf : (carryOut earlier working s).failure.isSome = true) :
    remaining carryOut earlier (s :: rest) working =
      remaining carryOut (earlier ++ (carryOut earlier working s).effects.finds) rest
        (carryOut earlier working s).record := by
  have hpassed : (CarriedOut.mk s earlier working (carryOut earlier working s)).isPassedOver =
      true := by
    rw [CarriedOut.isPassedOver, ho, hf, Bool.and_self]
  rw [remaining, carriedOut, countedFailure_of_isOptional ho]
  simp only [List.filter_cons, hpassed]
  rfl

/-- What remains when the first step succeeds. -/
theorem remaining_of_success (hf : (carryOut earlier working s).failure = none) :
    remaining carryOut earlier (s :: rest) working =
      s :: remaining carryOut (earlier ++ (carryOut earlier working s).effects.finds) rest
        (carryOut earlier working s).record := by
  have hdone : (CarriedOut.mk s earlier working (carryOut earlier working s)).isPassedOver =
      false := by
    rw [CarriedOut.isPassedOver, hf, Option.isSome_none, Bool.and_false]
  rw [remaining, carriedOut, countedFailure_of_success hf]
  simp only [List.filter_cons, hdone]
  rfl

/-- When a required first step fails, all steps remain. -/
theorem remaining_of_required (ho : s.isOptional = false)
    (hf : (carryOut earlier working s).failure.isSome = true) :
    remaining carryOut earlier (s :: rest) working = s :: rest := by
  have hdone : (CarriedOut.mk s earlier working (carryOut earlier working s)).isPassedOver =
      false := by
    rw [CarriedOut.isPassedOver, ho, Bool.false_and]
  obtain ⟨e, he⟩ := Option.isSome_iff_exists.1 hf
  rw [remaining, carriedOut, countedFailure_of_required ho, he]
  simp only [List.filter_cons, hdone]
  rfl

/-- **Deleting the optional steps that failed changes no result,** as long as the run goes on
after their questions as it would have gone on without them. -/
theorem runSteps_remaining (hout : ∀ earlier w s, PossibleOutcome s w (carryOut earlier w s))
    (earlier : List Find) (steps : List StepDefinition) (working : Value)
    (hsame : ∀ c ∈ carriedOut carryOut earlier steps working, c.isPassedOver = true →
      ∀ later w, (runSteps carryOut (c.earlier ++ c.outcome.effects.finds) later w).1 =
        (runSteps carryOut c.earlier later w).1) :
    (runSteps carryOut earlier (remaining carryOut earlier steps working) working).1 =
      (runSteps carryOut earlier steps working).1 := by
  induction steps generalizing earlier working with
  | nil => rfl
  | cons s rest ih =>
    rw [carriedOut] at hsame
    obtain ⟨hfirst, hlater⟩ := List.forall_mem_cons.1 hsame
    cases hf : (carryOut earlier working s).failure with
    | none =>
      rw [countedFailure_of_success hf] at hlater
      rw [remaining_of_success hf, runSteps_cons, runSteps_cons, countedFailure_of_success hf]
      exact ih _ _ hlater
    | some e =>
      have hsome : (carryOut earlier working s).failure.isSome = true := by
        rw [hf]
        rfl
      cases ho : s.isOptional with
      | true =>
        -- the step is deleted on one side, and has left no trace on the other
        have hrecord := (hout earlier working s).record_of_failure hsome
        rw [countedFailure_of_isOptional ho, hrecord] at hlater
        have hpassed : (CarriedOut.mk s earlier working
            (carryOut earlier working s)).isPassedOver = true := by
          rw [CarriedOut.isPassedOver, ho, hsome, Bool.and_self]
        rw [remaining_of_passedOver ho hsome, runSteps_cons, countedFailure_of_isOptional ho,
          hrecord, ← hfirst hpassed, ih _ working hlater]
      | false =>
        -- the run ends here, and nothing is deleted
        rw [remaining_of_required ho hsome]

/-- **A step that fails leaves no trace in the record.**  A write that fails has changed
nothing, and so has a step that fails, of a run with a store or without one.  The optional steps
that failed could as well not have been there: in a run without a store, in one with a store
that answers equal questions equally, and in one where they have asked nothing.  In other runs
they may be missed, as asking may change the store. -/
theorem noTrace_of_failure (p : Pipeline) (now : Calendar.Instant) (record : Value) :
    (∀ (v new : Value) (path : List String),
      (v.write path new).2.isSome = true → (v.write path new).1 = v) ∧
    (∀ c ∈ carriedOut (fun _ => p.perform now record) [] p.steps record,
      c.outcome.failure.isSome = true → c.outcome.record = c.before) ∧
    (∀ access, ∀ c ∈ carriedOut (p.performWithLookup access now record) [] p.steps record,
      c.outcome.failure.isSome = true → c.outcome.record = c.before) ∧
    { p with steps := remaining (fun _ => p.perform now record) [] p.steps record
      }.apply now record = p.apply now record ∧
    ∀ access : LookupAccess,
      (access.store.AnswersEqually ∨
        ∀ c ∈ carriedOut (p.performWithLookup access now record) [] p.steps record,
          c.isPassedOver = true → c.outcome.effects.finds = []) →
      ({ p with steps := remaining (p.performWithLookup access now record) [] p.steps record
        }.applyWithLookup access now record).1 = (p.applyWithLookup access now record).1 := by
  refine ⟨fun v new path => Value.write_of_isSome, ?_, ?_, ?_, ?_⟩
  · intro c hc hfail
    have hout := p.possibleOutcome_perform now record c.before c.step
    rw [← outcome_of_mem_carriedOut hc] at hout
    exact hout.record_of_failure hfail
  · intro access c hc hfail
    have hout := p.possibleOutcome_performWithLookup access now record c.earlier c.before c.step
    rw [← outcome_of_mem_carriedOut hc] at hout
    exact hout.record_of_failure hfail
  · refine runSteps_remaining (fun _ => p.possibleOutcome_perform now record) [] p.steps record ?_
    intro c _ _ later w
    rw [runSteps_const]
  · intro access hstore
    refine runSteps_remaining (p.possibleOutcome_performWithLookup access now record) [] p.steps
      record ?_
    intro c hc hpassed later w
    rcases hstore with hequally | hquiet
    · rw [performWithLookup_eq hequally, runSteps_const]
    · rw [hquiet c hc hpassed, List.append_nil]

/-- Four optional steps, the last three of which fail: nothing knows the kind of the second, and
nothing can be written into a text. -/
def fourOptional : Pipeline where
  steps := [
    { id := "1", field := "name", target := some "tag.label", kind := "TRIM",
      isOptional := true },
    { id := "2", field := "name", kind := "?", isOptional := true },
    { id := "3", field := "name", target := some "name.code", kind := "LOOKUP",
      options := { entityType := some "Product" }, isOptional := true },
    { id := "4", field := "name", target := some "name.first", kind := "TRIM",
      isOptional := true }]

/-- A record of a name. -/
def named : Value :=
  .obj [("name", .str "ann")]

/-- Of four optional steps only the first one matters, without a store and with one in
memory. -/
theorem noTrace_of_failure_fourOptional :
    (remaining (fun _ => fourOptional.perform ⟨0, 0⟩ named) [] fourOptional.steps named).map
      (·.id) = ["1"] ∧
    { fourOptional with
      steps := remaining (fun _ => fourOptional.perform ⟨0, 0⟩ named) [] fourOptional.steps named
      }.apply ⟨0, 0⟩ named = fourOptional.apply ⟨0, 0⟩ named ∧
    ({ fourOptional with
      steps := remaining
        (fourOptional.performWithLookup ⟨({} : Inventory).store, {}⟩ ⟨0, 0⟩ named) []
        fourOptional.steps named
      }.applyWithLookup ⟨({} : Inventory).store, {}⟩ ⟨0, 0⟩ named).1 =
        (fourOptional.applyWithLookup ⟨({} : Inventory).store, {}⟩ ⟨0, 0⟩ named).1 ∧
    (Value.write named ["name", "first"] .null).1 = named ∧
    ∃ c ∈ carriedOut (fun _ => fourOptional.perform ⟨0, 0⟩ named) [] fourOptional.steps named,
      c.outcome.failure.isSome = true ∧ c.outcome.record = c.before := by
  obtain ⟨hwrite, hstep, -, hrun, hasking⟩ := noTrace_of_failure fourOptional ⟨0, 0⟩ named
  refine ⟨by decide +kernel, hrun, hasking _ (Or.inl (Repository.answersEqually_ofStore _)),
    hwrite named .null ["name", "first"] (by decide +kernel), ?_⟩
  have hany : (carriedOut (fun _ => fourOptional.perform ⟨0, 0⟩ named) [] fourOptional.steps
      named).any (·.outcome.failure.isSome) = true := by
    decide +kernel
  obtain ⟨c, hc, hfail⟩ := List.any_eq_true.1 hany
  exact ⟨c, hc, hfail, hstep c hc hfail⟩

/-! ### A store that remembers -/

/-- A store that has an answer for the first question only. -/
def answersOnce : Repository :=
  ⟨fun earlier _ _ _ => .ok (if earlier.isEmpty then some (.obj [("id", .str "P-1")]) else none)⟩

/-- An optional lookup whose answer would be written into a text, and one whose answer can be
written. -/
def twoLookups : Pipeline where
  steps := [
    { id := "1", field := "name", target := some "name.code", kind := "LOOKUP",
      options := { entityType := some "Product" }, isOptional := true },
    { id := "2", field := "name", target := some "found", kind := "LOOKUP",
      options := { entityType := some "Product" } }]

/-- The identifier that a run leaves at the target of the second lookup, where it leaves one. -/
def foundBy (p : Pipeline) : Option (Option String) :=
  ((p.applyWithLookup ⟨answersOnce, {}⟩ ⟨0, 0⟩ named).1.toOption).map fun out =>
    (out.resolve "found").asString?

/-- The second lookup, which remains when the first is deleted. -/
def secondLookup : Pipeline :=
  { twoLookups with
    steps := remaining (twoLookups.performWithLookup ⟨answersOnce, {}⟩ ⟨0, 0⟩ named) []
      twoLookups.steps named }

/-- **A lookup that fails can leave a trace in the store.**  The first lookup fails and is
passed over, but its question was the only one that the store answers; without it, the second
lookup finds the entity, and the run has another record. -/
theorem trace_of_failedLookup :
    secondLookup.steps.map (·.id) = ["2"] ∧
    foundBy twoLookups = some none ∧
    foundBy secondLookup = some (some "P-1") ∧
    (secondLookup.applyWithLookup ⟨answersOnce, {}⟩ ⟨0, 0⟩ named).1 ≠
      (twoLookups.applyWithLookup ⟨answersOnce, {}⟩ ⟨0, 0⟩ named).1 := by
  have hkept : foundBy twoLookups = some none := by decide +kernel
  have hdeleted : foundBy secondLookup = some (some "P-1") := by decide +kernel
  refine ⟨by decide +kernel, hkept, hdeleted, ?_⟩
  intro hsame
  rw [foundBy, hsame, ← foundBy, hkept] at hdeleted
  cases hdeleted

end RecordFlow.Pipeline
