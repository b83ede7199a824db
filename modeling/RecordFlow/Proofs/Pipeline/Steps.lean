import RecordFlow.Pipeline.Run
import RecordFlow.Proofs.Value.PathWrite

/-!
# One step, and a run of steps

What a step can do to the working record, said once.  A step either leaves the record alone and
fails, or it writes some result at its target (`PossibleOutcome`), with a store
(`possibleOutcome_performWithLookup`) and without one (`possibleOutcome_perform`).  A step that
fails leaves the record alone in any case (`PossibleOutcome.record_of_failure`).

A run is taken apart at its first step (`runSteps_cons`), and, for anything that every step
preserves, as a whole (`runSteps_preserves`).  Whatever is said of the steps that it carries out
is said of single steps first: each of them is carried out on what it finds
(`outcome_of_mem_carriedOut`).

Where the way to carry out steps does not look at the questions so far, nor does the run
(`runSteps_const`).  Runs without a store are of this kind, and so are runs with a store that
answers equal questions equally (`performWithLookup_eq`).

## Main definitions

* `PossibleOutcome` — what a step can come to on a record.
-/

namespace RecordFlow.Pipeline

variable {p : Pipeline} {access : LookupAccess} {now : Calendar.Instant}
variable {initial working out : Value} {s : StepDefinition} {steps : List StepDefinition}
variable {carryOut : StepRunner} {earlier : List Find} {o : StepOutcome}

/-! ### One step -/

/-- The kind of a lookup is not built in and not added: it is settled first. -/
theorem resolve_lookup (h : s.kind = StepKind.lookup.identifier) :
    p.resolve s = .ok .lookup := by
  rw [resolve, if_pos h]

/-- A step of another kind has a handler, or is of a kind that nothing knows. -/
theorem resolve_of_ne (h : s.kind ≠ StepKind.lookup.identifier) :
    (∃ handler, p.resolve s = .ok (.handler handler)) ∨
      p.resolve s = .error (.unknownKind s.kind s.field) := by
  rw [resolve, if_neg h]
  cases (builtIn? s.kind).or (p.custom.lookup s.kind) with
  | none => exact Or.inr rfl
  | some handler => exact Or.inl ⟨handler, rfl⟩

/-- **What a step can do** on a record: it fails and does nothing, or it writes a result at its
target, which can still fail.  All that is said of runs of any kind rests on these two cases. -/
inductive PossibleOutcome (s : StepDefinition) (working : Value) : StepOutcome → Prop
  /-- There is nothing to write. -/
  | failed (e : PipelineError) : PossibleOutcome s working ⟨working, some e, .none⟩
  /-- The result is written, or cannot be. -/
  | written (result : Value) (effects : Effects) :
    PossibleOutcome s working (writeResult s working result effects)

/-- A result that cannot be written is a failure that names the step and what was in the way. -/
theorem failure_writeResult (s : StepDefinition) (working result : Value) (effects : Effects) :
    (writeResult s working result effects).failure =
      (working.obstacle? (segments s.targetField)).map fun o =>
        .configuration (o.message s.targetField) (some s.id) := by
  rw [← Value.write_snd working (segments s.targetField) result]
  rfl

theorem possibleOutcome_perform (p : Pipeline) (now : Calendar.Instant)
    (initial working : Value) (s : StepDefinition) :
    PossibleOutcome s working (p.perform now initial working s) := by
  unfold perform
  split
  · exact .written _ _
  · exact .failed _
  · exact .failed _

theorem possibleOutcome_performWithLookup (p : Pipeline) (access : LookupAccess)
    (now : Calendar.Instant) (initial : Value) (earlier : List Find) (working : Value)
    (s : StepDefinition) :
    PossibleOutcome s working (p.performWithLookup access now initial earlier working s) := by
  unfold performWithLookup
  split
  · exact .written _ _
  · exact .failed _

namespace PossibleOutcome

/-- **A step that fails leaves the record as it was.** -/
theorem record_of_failure (h : PossibleOutcome s working o) (hfail : o.failure.isSome = true) :
    o.record = working := by
  cases h with
  | failed e => rfl
  | written result effects =>
    refine Value.write_of_isSome ?_
    rw [← hfail]
    exact Option.isSome_map.symm

/-- What stands at a path that parts ways with the target of a step stays. -/
theorem resolve?_eq {path : String} (h : PossibleOutcome s working o)
    (hpath : PathsPart s.targetField path) :
    o.record.resolve? path = working.resolve? path := by
  cases h with
  | failed e => rfl
  | written result effects => exact Value.resolve?_write hpath

end PossibleOutcome

/-! ### A run -/

/-- A result that is not an error is a record. -/
theorem exists_ok_of_isOk {r : Except PipelineError Value} (h : r.isOk = true) :
    ∃ out, r = .ok out := by
  cases r with
  | ok out => exact ⟨out, rfl⟩
  | error e => cases h

/-- A failure counts unless the step is optional. -/
theorem countedFailure_of_isOptional (h : s.isOptional = true) : countedFailure s o = none := by
  rw [countedFailure, if_pos h]

theorem countedFailure_of_required (h : s.isOptional = false) :
    countedFailure s o = o.failure := by
  rw [countedFailure, h]
  rfl

theorem countedFailure_of_success (h : o.failure = none) : countedFailure s o = none := by
  rw [countedFailure, h, ite_self]

/-- A run begins with its first step, and goes on from the record as that has left it. -/
theorem runSteps_cons (carryOut : StepRunner) (earlier : List Find) (s : StepDefinition)
    (rest : List StepDefinition) (working : Value) :
    runSteps carryOut earlier (s :: rest) working =
      match countedFailure s (carryOut earlier working s) with
      | some e => (.error e, (carryOut earlier working s).effects)
      | none =>
        ((runSteps carryOut (earlier ++ (carryOut earlier working s).effects.finds) rest
            (carryOut earlier working s).record).1,
          (carryOut earlier working s).effects ++
            (runSteps carryOut (earlier ++ (carryOut earlier working s).effects.finds) rest
              (carryOut earlier working s).record).2) := rfl

/-- A run that succeeds gets over its first step and succeeds from there. -/
theorem runSteps_cons_eq_ok_iff {rest : List StepDefinition} :
    (runSteps carryOut earlier (s :: rest) working).1 = .ok out ↔
      countedFailure s (carryOut earlier working s) = none ∧
        (runSteps carryOut (earlier ++ (carryOut earlier working s).effects.finds) rest
          (carryOut earlier working s).record).1 = .ok out := by
  rw [runSteps_cons]
  cases countedFailure s (carryOut earlier working s) with
  | none => simp
  | some e => simp

/-- **What every step preserves holds after a run.** -/
theorem runSteps_preserves (Kept : Value → Prop)
    (hstep : ∀ s ∈ steps, ∀ earlier w, Kept w → Kept (carryOut earlier w s).record)
    (hstart : Kept working) (hrun : (runSteps carryOut earlier steps working).1 = .ok out) :
    Kept out := by
  induction steps generalizing earlier working with
  | nil =>
    cases hrun
    exact hstart
  | cons s rest ih =>
    rw [runSteps_cons] at hrun
    split at hrun
    -- the first step fails, and there is no record to speak of
    · cases hrun
    · obtain ⟨hs, hrest⟩ := List.forall_mem_cons.1 hstep
      exact ih hrest (hs earlier working hstart) hrun

/-- Every step is carried out on the record that it finds. -/
theorem outcome_of_mem_carriedOut {c : CarriedOut}
    (hc : c ∈ carriedOut carryOut earlier steps working) :
    c.outcome = carryOut c.earlier c.before c.step := by
  induction steps generalizing earlier working with
  | nil => cases hc
  | cons s rest ih =>
    rw [carriedOut, List.mem_cons] at hc
    rcases hc with rfl | hc
    · rfl
    · split at hc
      · cases hc
      · exact ih hc

/-! ### Runs that do not depend on the questions so far -/

/-- A run whose steps do not look at the questions so far can begin after any others. -/
theorem runSteps_const (carryOut : Value → StepDefinition → StepOutcome)
    (earlier other : List Find) (steps : List StepDefinition) (working : Value) :
    runSteps (fun _ => carryOut) earlier steps working =
      runSteps (fun _ => carryOut) other steps working := by
  induction steps generalizing earlier other working with
  | nil => rfl
  | cons s rest ih =>
    simp only [runSteps_cons]
    rw [ih (earlier ++ (carryOut working s).effects.finds)
      (other ++ (carryOut working s).effects.finds)]

/-- Such a run that succeeds gets over its first step and succeeds from there, as if nothing had
been asked. -/
theorem runSteps_const_cons_eq_ok_iff {carryOut : Value → StepDefinition → StepOutcome}
    {rest : List StepDefinition} :
    (runSteps (fun _ => carryOut) [] (s :: rest) working).1 = .ok out ↔
      countedFailure s (carryOut working s) = none ∧
        (runSteps (fun _ => carryOut) [] rest (carryOut working s).record).1 = .ok out := by
  rw [runSteps_cons_eq_ok_iff, runSteps_const carryOut _ []]

/-- **A store that answers equal questions equally** is the same for a step whatever was asked
before it. -/
theorem performWithLookup_eq (h : access.store.AnswersEqually) (p : Pipeline)
    (now : Calendar.Instant) (initial : Value) :
    p.performWithLookup access now initial =
      fun _ => p.performWithLookup access now initial [] := by
  funext earlier working s
  rw [performWithLookup, performWithLookup, h earlier []]

end RecordFlow.Pipeline
