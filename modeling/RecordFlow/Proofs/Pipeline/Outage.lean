import RecordFlow.Proofs.Pipeline.Steps

/-!
# Stores that fail

A lookup takes a question that fails for one that nothing answers: both give null.  So a
pipeline that runs against a store which always fails keeps in step with its run against an
empty store.  Every step finds the same record, asks the same and leaves the same, and the
results of the two runs are the same (`outage_runSteps`).

What the runs say is not the same.  A lookup that asks has nothing else to say, and so the store
that fails adds exactly one warning for each question to those that the empty store leaves
(`Outage`).  The store may give another reason each time, also for one question that is asked
twice; the warnings give the reasons in the order of the questions (`Reported`).

## Main definitions

* `Repository.failing` — the store that answers no question.
* `Reported` — the warnings say that the questions failed.
* `Outage` — what is asked and said against a store that fails, and against an empty one.
-/

namespace RecordFlow

/-- **The store that answers no question,** and gives some reason each time.  The reason may
depend on what was asked before: a store may time out first and refuse to connect later. -/
def Repository.failing (errors : List Find → Find → LookupError) : Repository :=
  ⟨fun earlier request type filter => .error (errors earlier ⟨type, filter, request⟩)⟩

namespace Pipeline

variable {errors : List Find → Find → LookupError} {earlier : List Find}
variable {carryOut other : StepRunner}

/-- **The warnings say that the questions failed,** one for each question, in their order, with
the value that was looked for and the reason that the store gave then. -/
inductive Reported (errors : List Find → Find → LookupError) :
    List Find → List Find → List String → Prop
  /-- No question, and no warning. -/
  | nil (earlier : List Find) : Reported errors earlier [] []
  /-- A question, and those after it. -/
  | cons {earlier : List Find} {question : Find} {path : String} {v : Value}
      {later : List Find} {reports : List String} (hfilter : question.filter = [(path, v)])
      (hlater : Reported errors (earlier ++ [question]) later reports) :
    Reported errors earlier (question :: later)
      (failureWarning question.type path v (errors earlier question) :: reports)

/-- There are as many warnings as questions. -/
theorem Reported.length_eq {finds : List Find} {reports : List String}
    (h : Reported errors earlier finds reports) : reports.length = finds.length := by
  induction h with
  | nil earlier => rfl
  | cons hfilter hlater ih => rw [List.length_cons, List.length_cons, ih]

/-- Questions, and those after them. -/
theorem Reported.append {finds later : List Find} {reports laterReports : List String}
    (h : Reported errors earlier finds reports)
    (hlater : Reported errors (earlier ++ finds) later laterReports) :
    Reported errors earlier (finds ++ later) (reports ++ laterReports) := by
  induction h with
  | nil earlier => rwa [List.append_nil] at hlater
  | cons hfilter hrest ih =>
    rw [List.append_cons] at hlater
    exact .cons hfilter (ih hlater)

/-- **Against a store that fails, as against an empty one:** the same questions are asked, and
the warnings are those of the empty store with one more for each question, both in their
order. -/
structure Outage (errors : List Find → Find → LookupError) (earlier : List Find)
    (failing empty : Effects) : Prop where
  /-- The same is asked. -/
  finds_eq : failing.finds = empty.finds
  /-- One more warning is given for each question. -/
  warnings : ∃ reports, Reported errors earlier empty.finds reports ∧
    reports.length = empty.finds.length ∧
    failing.warnings.Perm (empty.warnings ++ reports) ∧
    reports.Sublist failing.warnings ∧ empty.warnings.Sublist failing.warnings

/-- Where nothing is asked, a store that fails makes no difference. -/
theorem Outage.of_finds_eq_nil {effects : Effects} (h : effects.finds = []) :
    Outage errors earlier effects effects := by
  refine ⟨rfl, [], ?_, ?_, ?_, List.nil_sublist _, List.Sublist.refl _⟩
  · rw [h]
    exact .nil earlier
  · rw [h]
    rfl
  · rw [List.append_nil]

/-- What is asked and said first, and what is asked and said then. -/
theorem Outage.append {failing₁ failing₂ empty₁ empty₂ : Effects}
    (h₁ : Outage errors earlier failing₁ empty₁)
    (h₂ : Outage errors (earlier ++ empty₁.finds) failing₂ empty₂) :
    Outage errors earlier (failing₁ ++ failing₂) (empty₁ ++ empty₂) := by
  obtain ⟨hfinds₁, reports₁, hreports₁, -, hperm₁, hsub₁, hkept₁⟩ := h₁
  obtain ⟨hfinds₂, reports₂, hreports₂, -, hperm₂, hsub₂, hkept₂⟩ := h₂
  have hreports : Reported errors earlier (empty₁.finds ++ empty₂.finds) (reports₁ ++ reports₂) :=
    hreports₁.append hreports₂
  refine ⟨?_, reports₁ ++ reports₂, hreports, hreports.length_eq, ?_,
    hsub₁.append hsub₂, hkept₁.append hkept₂⟩
  · show failing₁.finds ++ failing₂.finds = empty₁.finds ++ empty₂.finds
    rw [hfinds₁, hfinds₂]
  · show (failing₁.warnings ++ failing₂.warnings).Perm
      ((empty₁.warnings ++ empty₂.warnings) ++ (reports₁ ++ reports₂))
    refine (hperm₁.append hperm₂).trans ?_
    -- the reports of the first part go behind the warnings of the second
    rw [List.append_assoc, List.append_assoc]
    refine List.Perm.append_left _ ?_
    rw [← List.append_assoc, ← List.append_assoc]
    exact List.perm_append_comm.append_right reports₂

/-! ### One lookup -/

/-- A lookup gives the same answer against a store that fails and against an empty one. -/
theorem lookUp_failing_fst (errors : List Find → Find → LookupError) (earlier : List Find)
    (request : Request) (o : Options) (v : Value) :
    (lookUp ((Repository.failing errors).after earlier) request o v).1 =
      (lookUp ({} : Inventory).store request o v).1 := by
  unfold lookUp
  split
  · rfl
  · rfl
  · rfl

/-- A lookup asks the same of both, and says one thing more if it asks. -/
theorem outage_lookUp (errors : List Find → Find → LookupError) (earlier : List Find)
    (request : Request) (o : Options) (v : Value) :
    Outage errors earlier (lookUp ((Repository.failing errors).after earlier) request o v).2
      (lookUp ({} : Inventory).store request o v).2 := by
  unfold lookUp
  split
  · exact .of_finds_eq_nil rfl
  · exact .of_finds_eq_nil rfl
  · next type fromPath toPath hplan =>
    have hreports : Reported errors earlier [⟨type, [(fromPath, v)], request⟩]
        [failureWarning type fromPath v (errors earlier ⟨type, [(fromPath, v)], request⟩)] :=
      .cons rfl (.nil _)
    exact ⟨rfl, _, hreports, rfl, List.Perm.refl _, List.Sublist.refl _, List.nil_sublist _⟩

/-- **A lookup that asks an empty store has nothing to say.** -/
theorem warnings_lookUp_empty (request : Request) (o : Options) (v : Value)
    (h : (lookUp ({} : Inventory).store request o v).2.finds ≠ []) :
    (lookUp ({} : Inventory).store request o v).2.warnings = [] := by
  unfold lookUp at h ⊢
  split
  · rfl
  · next hplan =>
    rw [hplan] at h
    exact absurd rfl h
  · rfl

/-! ### One step, and a run -/

/-- **Two ways to carry out a step keep in step:** they leave the same record or fail in the
same way, and differ in what they say as an outage does. -/
structure InStep (errors : List Find → Find → LookupError) (earlier : List Find)
    (failing empty : StepOutcome) : Prop where
  /-- The same record is left. -/
  record_eq : failing.record = empty.record
  /-- The failure is the same. -/
  failure_eq : failing.failure = empty.failure
  /-- One more warning is given for each question. -/
  effects : Outage errors earlier failing.effects empty.effects

/-- **Every step keeps in step** with itself against an empty store. -/
theorem inStep_performWithLookup (errors : List Find → Find → LookupError) (p : Pipeline)
    (request : Request) (now : Calendar.Instant) (initial : Value) (earlier : List Find)
    (working : Value) (s : StepDefinition) :
    InStep errors earlier
      (p.performWithLookup ⟨.failing errors, request⟩ now initial earlier working s)
      (p.performWithLookup ⟨({} : Inventory).store, request⟩ now initial earlier working s) := by
  unfold performWithLookup
  cases p.resolve s with
  | error e => exact ⟨rfl, rfl, .of_finds_eq_nil rfl⟩
  | ok resolved =>
    cases resolved with
    | handler handler => exact ⟨rfl, rfl, .of_finds_eq_nil rfl⟩
    | lookup =>
      -- the same answer is written, and what was asked and said goes through the write
      have hanswer := lookUp_failing_fst errors earlier request s.options (working.resolve s.field)
      refine ⟨?_, ?_, outage_lookUp errors earlier request s.options (working.resolve s.field)⟩
      · simp only [writeResult, hanswer]
        rfl
      · simp only [writeResult, hanswer]
        rfl

/-- **Runs keep in step** if every step does.  As the same is asked in both, the two stores have
been asked the same before each step. -/
theorem outage_runSteps (earlier : List Find) (steps : List StepDefinition) (working : Value)
    (hstep : ∀ earlier w s, InStep errors earlier (carryOut earlier w s) (other earlier w s)) :
    (runSteps carryOut earlier steps working).1 = (runSteps other earlier steps working).1 ∧
      Outage errors earlier (runSteps carryOut earlier steps working).2
        (runSteps other earlier steps working).2 := by
  induction steps generalizing earlier working with
  | nil => exact ⟨rfl, .of_finds_eq_nil rfl⟩
  | cons s rest ih =>
    obtain ⟨hrecord, hfailure, heffects⟩ := hstep earlier working s
    have hcounted : countedFailure s (carryOut earlier working s) =
        countedFailure s (other earlier working s) := by
      rw [countedFailure, countedFailure, hfailure]
    rw [runSteps_cons, runSteps_cons, hcounted, hrecord, heffects.finds_eq]
    cases countedFailure s (other earlier working s) with
    | some e => exact ⟨rfl, heffects⟩
    | none =>
      obtain ⟨hresult, hlater⟩ := ih (earlier ++ (other earlier working s).effects.finds)
        (other earlier working s).record
      exact ⟨hresult, heffects.append hlater⟩

/-- A step that asks an empty store has nothing to say. -/
theorem warnings_performWithLookup_empty (p : Pipeline) (request : Request)
    (now : Calendar.Instant) (initial : Value) (earlier : List Find) (working : Value)
    (s : StepDefinition)
    (h : (p.performWithLookup ⟨({} : Inventory).store, request⟩ now initial earlier working
      s).effects.finds ≠ []) :
    (p.performWithLookup ⟨({} : Inventory).store, request⟩ now initial earlier working
      s).effects.warnings = [] := by
  unfold performWithLookup at h ⊢
  cases hresolve : p.resolve s with
  | error e => rfl
  | ok resolved =>
    cases resolved with
    | handler handler => rfl
    | lookup =>
      rw [hresolve] at h
      exact warnings_lookUp_empty request s.options (working.resolve s.field) h

/-- **An outage only costs matches.**  Against a store that fails on every question, a run has
the same result as against an empty store and asks the same questions.  It gives one more
warning for each question, and the steps that ask the empty store give none.  So a pipeline may
be run while its store is down, and nothing in the record tells that it was. -/
theorem applyWithLookup_failing (p : Pipeline) (errors : List Find → Find → LookupError)
    (request : Request) (now : Calendar.Instant) (record : Value) :
    (p.applyWithLookup ⟨.failing errors, request⟩ now record).1 =
      (p.applyWithLookup ⟨({} : Inventory).store, request⟩ now record).1 ∧
    Outage errors [] (p.applyWithLookup ⟨.failing errors, request⟩ now record).2
      (p.applyWithLookup ⟨({} : Inventory).store, request⟩ now record).2 ∧
    ∀ c ∈ carriedOut (p.performWithLookup ⟨({} : Inventory).store, request⟩ now record) []
        p.steps record,
      c.outcome.effects.finds ≠ [] → c.outcome.effects.warnings = [] := by
  obtain ⟨hresult, heffects⟩ := outage_runSteps [] p.steps record
    (inStep_performWithLookup errors p request now record)
  refine ⟨hresult, heffects, ?_⟩
  intro c hc hasks
  rw [outcome_of_mem_carriedOut hc] at hasks ⊢
  exact warnings_performWithLookup_empty p request now record c.earlier c.before c.step hasks

/-- Two lookups, the second of which reads what the first has found, and one that does not know
what to look for. -/
def threeLookups : Pipeline where
  steps := [
    { id := "1", field := "sku", target := some "found", kind := "LOOKUP",
      options := { entityType := some "Product" } },
    { id := "2", field := "found", target := some "price", kind := "LOOKUP",
      options := { entityType := some "Product" } },
    { id := "3", field := "sku", target := some "facet", kind := "LOOKUP",
      options := { entityType := some "Thing" } }]

/-- A record with the code of a product. -/
def shoe : Value :=
  .obj [("sku", .str "SHOE-1")]

/-- The first lookup asks and finds nothing, so that the second has nothing to ask for; the
third says so in both runs. -/
theorem applyWithLookup_failing_threeLookups :
    (threeLookups.applyWithLookup ⟨.failing fun _ _ => .backend "down", {}⟩ ⟨0, 0⟩ shoe).1 =
      (threeLookups.applyWithLookup ⟨({} : Inventory).store, {}⟩ ⟨0, 0⟩ shoe).1 ∧
    Outage (fun _ _ => .backend "down") []
      (threeLookups.applyWithLookup ⟨.failing fun _ _ => .backend "down", {}⟩ ⟨0, 0⟩ shoe).2
      (threeLookups.applyWithLookup ⟨({} : Inventory).store, {}⟩ ⟨0, 0⟩ shoe).2 ∧
    (threeLookups.applyWithLookup ⟨.failing fun _ _ => .backend "down", {}⟩ ⟨0, 0⟩
      shoe).2.warnings =
        ["Lookup of Product by code=SHOE-1 failed: down", "Unknown entity type 'Thing'"] ∧
    ∃ c ∈ carriedOut
        (threeLookups.performWithLookup ⟨({} : Inventory).store, {}⟩ ⟨0, 0⟩ shoe) []
        threeLookups.steps shoe,
      c.outcome.effects.finds ≠ [] ∧ c.outcome.effects.warnings = [] := by
  obtain ⟨hresult, heffects, hquiet⟩ := applyWithLookup_failing threeLookups
    (fun _ _ => .backend "down") {} ⟨0, 0⟩ shoe
  have hasks : ((carriedOut
      (threeLookups.performWithLookup ⟨({} : Inventory).store, {}⟩ ⟨0, 0⟩ shoe) []
      threeLookups.steps shoe).any fun c => !c.outcome.effects.finds.isEmpty) = true := by
    decide +kernel
  obtain ⟨c, hc, hc'⟩ := List.any_eq_true.1 hasks
  have hfinds : c.outcome.effects.finds ≠ [] := by
    intro hnil
    rw [hnil] at hc'
    cases hc'
  exact ⟨hresult, heffects, by decide +kernel, c, hc, hfinds, hquiet c hc hfinds⟩

end Pipeline

end RecordFlow
