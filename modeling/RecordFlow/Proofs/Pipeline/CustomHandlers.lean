import RecordFlow.Proofs.Pipeline.Validation

/-!
# Handlers that are added

A handler that is added to a pipeline counts only for the steps that nothing else knows
(`indistinguishable_withCustom`).  Under the identifier of a built-in kind, that of a lookup
included, it is never asked, and under an identifier that no step has there is nobody to ask it.
Such a pipeline is checked and runs as before, step for step.  Under any other identifier it
does what the steps of this kind do, until another one is added under the same identifier.

A pipeline is looked at only through its steps and through what these turn out to be, so that
two pipelines which agree in that cannot be told apart (`Indistinguishable.of_resolve`).

## Main definitions

* `Pipeline.Indistinguishable` — two pipelines are checked and run in the same way.
* `Pipeline.Runs` — a step does what a handler does.
* `Pipeline.addAll` — a pipeline with handlers that are added one after the other.
-/

namespace RecordFlow

/-! ### The identifiers of built-in kinds -/

namespace StepKind

theorem mem_all (kind : StepKind) : kind ∈ all := by
  cases kind <;> decide

/-- The identifiers of two kinds differ. -/
theorem ofIdentifier?_identifier (kind : StepKind) : ofIdentifier? kind.identifier = some kind := by
  have hall : ∀ kind ∈ all, ofIdentifier? kind.identifier = some kind := by decide +kernel
  exact hall kind kind.mem_all

/-- An identifier names the kind that it is the identifier of. -/
theorem ofIdentifier?_eq_some_iff {name : String} {kind : StepKind} :
    ofIdentifier? name = some kind ↔ name = kind.identifier := by
  constructor
  · intro h
    have hname := List.find?_some h
    exact (beq_iff_eq.1 hname).symm
  · rintro rfl
    exact ofIdentifier?_identifier kind

/-- All kinds but the lookup have a handler. -/
theorem exists_handler?_eq_some {kind : StepKind} (h : kind ≠ lookup) :
    ∃ handler, kind.handler? = some handler := by
  cases kind with
  | lookup => exact absurd rfl h
  | _ => exact ⟨_, rfl⟩

end StepKind

theorem exists_builtIn?_eq_some {kind : StepKind} (h : kind ≠ .lookup) :
    ∃ handler, builtIn? kind.identifier = some handler := by
  obtain ⟨handler, hhandler⟩ := StepKind.exists_handler?_eq_some h
  refine ⟨handler, ?_⟩
  rw [builtIn?, StepKind.ofIdentifier?_identifier, Option.bind_some, hhandler]

theorem builtIn?_eq_none {name : String} (h : ∀ kind : StepKind, name ≠ kind.identifier) :
    builtIn? name = none := by
  have hname : StepKind.ofIdentifier? name = none := by
    rw [Option.eq_none_iff_forall_ne_some]
    intro kind hkind
    exact h kind (StepKind.ofIdentifier?_eq_some_iff.1 hkind)
  rw [builtIn?, hname, Option.bind_none]

namespace Pipeline

variable {p q : Pipeline} {name : String} {h : Handler} {s : StepDefinition}

/-! ### What a step turns out to be -/

/-- A handler of another identifier makes no difference to a step. -/
theorem resolve_withCustom_of_ne (hs : s.kind ≠ name) (h : Handler) :
    (p.withCustom name h).resolve s = p.resolve s := by
  have hlookup : (p.withCustom name h).custom.lookup s.kind = p.custom.lookup s.kind := by
    rw [withCustom, List.lookup_cons, beq_false_of_ne hs]
  rw [resolve, resolve, hlookup]

/-- **A handler under the identifier of a built-in kind makes no difference to any step.** -/
theorem resolve_withCustom_of_builtIn {kind : StepKind} (h : Handler) (s : StepDefinition) :
    (p.withCustom kind.identifier h).resolve s = p.resolve s := by
  by_cases hs : s.kind = kind.identifier
  · by_cases hkind : kind = .lookup
    · rw [hkind] at hs
      rw [resolve_lookup hs, resolve_lookup hs]
    · -- the built-in handler comes first
      obtain ⟨handler, hhandler⟩ := exists_builtIn?_eq_some hkind
      rw [resolve, resolve, hs, hhandler]
      rfl
  · exact resolve_withCustom_of_ne hs h

/-- **A handler under any other identifier is what the steps of this identifier turn out to
be.** -/
theorem resolve_withCustom_self (hname : ∀ kind : StepKind, name ≠ kind.identifier)
    (hs : s.kind = name) : (p.withCustom name h).resolve s = .ok (.handler h) := by
  rw [resolve, hs, if_neg (hname .lookup), builtIn?_eq_none hname, withCustom,
    List.lookup_cons_self]
  rfl

/-- A pipeline with handlers that are added one after the other. -/
def addAll (p : Pipeline) (added : List (String × Handler)) : Pipeline :=
  added.foldl (fun p (name, h) => p.withCustom name h) p

/-- What is added under other identifiers makes no difference to a step. -/
theorem resolve_addAll {added : List (String × Handler)} (hadded : ∀ a ∈ added, s.kind ≠ a.1) :
    (p.addAll added).resolve s = p.resolve s := by
  induction added generalizing p with
  | nil => rfl
  | cons a added ih =>
    obtain ⟨ha, hadded⟩ := List.forall_mem_cons.1 hadded
    exact (ih hadded).trans (resolve_withCustom_of_ne ha a.2)

/-! ### Pipelines that cannot be told apart -/

/-- **Two pipelines are checked and run in the same way,** on every record, with every store and
without one: with the same result, the same questions and the same warnings.  Each step is
carried out on the same record and comes to the same, optional steps that fail included. -/
structure Indistinguishable (p q : Pipeline) : Prop where
  validate_eq : q.validate = p.validate
  apply_eq : ∀ now record, q.apply now record = p.apply now record
  carriedOut_eq : ∀ now record, carriedOut (fun _ => q.perform now record) [] q.steps record =
    carriedOut (fun _ => p.perform now record) [] p.steps record
  applyWithLookup_eq : ∀ access now record,
    q.applyWithLookup access now record = p.applyWithLookup access now record
  carriedOut_withLookup_eq : ∀ access now record,
    carriedOut (q.performWithLookup access now record) [] q.steps record =
      carriedOut (p.performWithLookup access now record) [] p.steps record

theorem forM_congr {check other : StepDefinition → Except PipelineError Unit}
    {steps : List StepDefinition} (h : ∀ s ∈ steps, check s = other s) :
    steps.forM check = steps.forM other := by
  induction steps with
  | nil => rfl
  | cons s rest ih =>
    obtain ⟨hs, hrest⟩ := List.forall_mem_cons.1 h
    show (check s >>= fun _ => rest.forM check) = (other s >>= fun _ => rest.forM other)
    rw [hs, ih hrest]

/-- Steps that come to the same are carried out in the same way. -/
theorem carriedOut_congr {carryOut other : StepRunner} {earlier : List Find}
    {steps : List StepDefinition} {working : Value}
    (h : ∀ s ∈ steps, ∀ earlier w, carryOut earlier w s = other earlier w s) :
    carriedOut carryOut earlier steps working = carriedOut other earlier steps working := by
  induction steps generalizing earlier working with
  | nil => rfl
  | cons s rest ih =>
    obtain ⟨hs, hrest⟩ := List.forall_mem_cons.1 h
    rw [carriedOut, carriedOut, hs earlier working, ih hrest]

/-- **Pipelines of the same steps cannot be told apart** if each step turns out to be the
same. -/
theorem Indistinguishable.of_resolve (hsteps : q.steps = p.steps)
    (hresolve : ∀ s ∈ p.steps, q.resolve s = p.resolve s) : Indistinguishable p q := by
  have hperform (now : Calendar.Instant) (record : Value) :
      ∀ s ∈ p.steps, ∀ _ : List Find, ∀ w,
        q.perform now record w s = p.perform now record w s := by
    intro s hs _ w
    rw [perform, perform, hresolve s hs]
  have hperformWithLookup (access : LookupAccess) (now : Calendar.Instant) (record : Value) :
      ∀ s ∈ p.steps, ∀ earlier w, q.performWithLookup access now record earlier w s =
        p.performWithLookup access now record earlier w s := by
    intro s hs earlier w
    rw [performWithLookup, performWithLookup, hresolve s hs]
  constructor
  · rw [validate, validate, hsteps]
    refine forM_congr ?_
    intro s hs
    rw [checkStep, checkStep, hresolve s hs]
  · intro now record
    rw [apply, apply, hsteps, runSteps_congr (hperform now record)]
  · intro now record
    rw [hsteps, carriedOut_congr (hperform now record)]
  · intro access now record
    rw [applyWithLookup, applyWithLookup, hsteps,
      runSteps_congr (hperformWithLookup access now record)]
  · intro access now record
    rw [hsteps, carriedOut_congr (hperformWithLookup access now record)]

/-! ### What a handler that is added does -/

/-- **A step runs a handler:** in every run, whatever the working record has become, it writes
at its target what the handler makes of the value at its field, and asks nothing. -/
def Runs (p : Pipeline) (s : StepDefinition) (h : Handler) : Prop :=
  ∀ now initial working,
    p.perform now initial working s =
        writeResult s working (h s.options ⟨some initial, now⟩ (working.resolve s.field)) .none ∧
      ∀ access earlier, p.performWithLookup access now initial earlier working s =
        writeResult s working (h s.options ⟨some initial, now⟩ (working.resolve s.field)) .none

theorem Runs.of_resolve (hresolve : p.resolve s = .ok (.handler h)) : Runs p s h := by
  intro now initial working
  refine ⟨?_, fun access earlier => ?_⟩
  · rw [perform, hresolve]
  · rw [performWithLookup, hresolve]

/-- **A handler that is added changes nothing that is built in.**  If it is added under the
identifier of a built-in kind, or under one that no step has, the pipeline cannot be told from
the one before.  Otherwise it is run by all steps of this identifier, as long as no other one is
added under the same identifier. -/
theorem indistinguishable_withCustom (p : Pipeline) (name : String) (h : Handler) :
    ((∃ kind : StepKind, name = kind.identifier) ∨ (∀ s ∈ p.steps, s.kind ≠ name) →
      Indistinguishable p (p.withCustom name h)) ∧
    ((∀ kind : StepKind, name ≠ kind.identifier) →
      ∀ later : List (String × Handler), (∀ a ∈ later, a.1 ≠ name) →
        ∀ s, s.kind = name → Runs ((p.withCustom name h).addAll later) s h) := by
  constructor
  · intro hname
    refine .of_resolve rfl fun s hs => ?_
    rcases hname with ⟨kind, rfl⟩ | hunused
    · exact resolve_withCustom_of_builtIn h s
    · exact resolve_withCustom_of_ne (hunused s hs) h
  · intro hname later hlater s hs
    refine .of_resolve ?_
    rw [resolve_addAll (hs ▸ fun a ha => (hlater a ha).symm), resolve_withCustom_self hname hs]

/-- A step of a kind that is not built in. -/
def aloud : StepDefinition :=
  { id := "2", field := "name", kind := "SHOUT" }

/-- The same after a step of a built-in kind. -/
def trimmedAloud : Pipeline where
  steps := [{ id := "1", field := "name", kind := "TRIM" }, aloud]

/-- Handlers for trimming, for lookups and for what no step does are never run, and of two
handlers for what one step does the later one is. -/
theorem indistinguishable_withCustom_aloud :
    Indistinguishable trimmedAloud (trimmedAloud.withCustom "TRIM" fun _ _ _ => .null) ∧
    Indistinguishable trimmedAloud (trimmedAloud.withCustom "LOOKUP" fun _ _ _ => .null) ∧
    Indistinguishable trimmedAloud (trimmedAloud.withCustom "WHISPER" fun _ _ _ => .null) ∧
    Runs (((trimmedAloud.withCustom "SHOUT" fun _ _ _ => .null).withCustom "SHOUT"
      fun _ _ v => .arr [v]).withCustom "WHISPER" fun _ _ _ => .null) aloud
        fun _ _ v => .arr [v] := by
  have hother : ∀ kind : StepKind, "SHOUT" ≠ kind.identifier := by
    intro kind
    cases kind <;> decide
  refine ⟨?_, ?_, ?_, ?_⟩
  · exact (indistinguishable_withCustom trimmedAloud "TRIM" _).1 (Or.inl ⟨.trim, rfl⟩)
  · exact (indistinguishable_withCustom trimmedAloud "LOOKUP" _).1 (Or.inl ⟨.lookup, rfl⟩)
  · exact (indistinguishable_withCustom trimmedAloud "WHISPER" _).1 (Or.inr (by decide))
  · exact (indistinguishable_withCustom _ "SHOUT" _).2 hother [("WHISPER", fun _ _ _ => .null)]
      (by simp) aloud rfl

end Pipeline

end RecordFlow
