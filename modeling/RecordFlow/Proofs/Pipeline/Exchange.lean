import RecordFlow.Proofs.Pipeline.Steps
import RecordFlow.Proofs.Value.PathExchange

/-!
# Neighbours that change places

Two steps are independent if neither writes where the other reads or writes (`Independent`).
Independent neighbours can change places in any pipeline: it succeeds before if and only if it
succeeds afterwards, and then with the same record (`apply_exchange`).  When it fails, it may
well fail in another way, as a run ends at the first failure that counts.

What a step does depends on the working record only through the value at its field
(`ActsOnField`), so a step finds the same to do before and after an independent one.  What is
left is the write, and two writes whose targets part ways do not disturb each other
(`Value.obstacle?_write`, `Value.write_comm`).

Two lookups that change places ask the store in the other order.  With a store that remembers
its questions this may change every later answer, and so the store has to answer equal questions
equally.

The present instant is one for the whole run, and so nothing has to be said here of the steps
that ask for it.

## Main definitions

* `ActsOnField` — a step looks at nothing of the working record but the value at its field.
* `Independent` — two steps do not disturb each other.
-/

namespace RecordFlow.Pipeline

variable {p : Pipeline} {initial w out : Value} {s t : StepDefinition}
variable {first rest other : List StepDefinition}
variable {carryOut : Value → StepDefinition → StepOutcome}

/-! ### What a step looks at -/

/-- **A step looks at nothing of the working record but the value at its field.**  It refuses
every record in the same way, or it answers the value and writes the answer. -/
inductive ActsOnField (carryOut : Value → StepDefinition → StepOutcome)
    (s : StepDefinition) : Prop
  /-- There is nothing to write, whatever the record. -/
  | refuses (e : PipelineError) (h : ∀ w, carryOut w s = ⟨w, some e, .none⟩)
  /-- An answer to the value is written, or cannot be. -/
  | writes (answer : Value → Value × Effects)
    (h : ∀ w, carryOut w s =
      writeResult s w (answer (w.resolve s.field)).1 (answer (w.resolve s.field)).2)

theorem actsOnField_perform (p : Pipeline) (now : Calendar.Instant) (initial : Value)
    (s : StepDefinition) : ActsOnField (p.perform now initial) s := by
  cases hresolve : p.resolve s with
  | error e => exact .refuses e fun w => by rw [perform, hresolve]
  | ok resolved =>
    cases resolved with
    | lookup => exact .refuses (.needsStore s.kind) fun w => by rw [perform, hresolve]
    | handler handler =>
      exact .writes (fun v => (handler s.options ⟨some initial, now⟩ v, .none))
        fun w => by rw [perform, hresolve]

theorem actsOnField_performWithLookup (p : Pipeline) (access : LookupAccess)
    (now : Calendar.Instant) (initial : Value) (earlier : List Find) (s : StepDefinition) :
    ActsOnField (p.performWithLookup access now initial earlier) s := by
  cases hresolve : p.resolve s with
  | error e => exact .refuses e fun w => by rw [performWithLookup, hresolve]
  | ok resolved =>
    cases resolved with
    | lookup =>
      exact .writes (lookUp (access.store.after earlier) access.request s.options)
        fun w => by rw [performWithLookup, hresolve]
    | handler handler =>
      exact .writes (fun v => (handler s.options ⟨some initial, now⟩ v, .none))
        fun w => by rw [performWithLookup, hresolve]

/-! ### Two independent steps -/

/-- **Two steps are independent:** neither writes where the other reads or writes.  Paths that
agree up to the end of one of them do not part ways, so that writing into what the other reads
counts as writing where it reads. -/
structure Independent (s t : StepDefinition) : Prop where
  /-- They write in different places. -/
  targets_part : PathsPart s.targetField t.targetField
  /-- The second does not read what the first writes. -/
  target_field_part : PathsPart s.targetField t.field
  /-- The first does not read what the second writes. -/
  field_target_part : PathsPart t.targetField s.field

theorem Independent.symm (h : Independent s t) : Independent t s :=
  ⟨h.targets_part.symm, h.field_target_part, h.target_field_part⟩

/-- A write leaves what the other step reads. -/
theorem Independent.resolve_write (h : Independent s t) (w new : Value) :
    (w.write (segments s.targetField) new).1.resolve t.field = w.resolve t.field := by
  rw [Value.resolve, Value.resolve, Value.resolve?_write h.target_field_part]

/-- **A step fails after an independent one just as it fails before it.** -/
theorem failure_after (hs : ActsOnField carryOut s) (ht : ActsOnField carryOut t)
    (h : Independent s t) (w : Value) :
    (carryOut (carryOut w s).record t).failure = (carryOut w t).failure := by
  cases ht with
  | refuses e ht => rw [ht, ht]
  | writes answer ht =>
    cases hs with
    | refuses e hs => rw [hs]
    | writes found hs =>
      rw [hs, ht, ht, failure_writeResult, failure_writeResult]
      exact congrArg _ (Value.obstacle?_write h.targets_part)

/-- **Independent steps leave the same record in either order.** -/
theorem record_comm (hs : ActsOnField carryOut s) (ht : ActsOnField carryOut t)
    (h : Independent s t) (w : Value) :
    (carryOut (carryOut w s).record t).record = (carryOut (carryOut w t).record s).record := by
  cases hs with
  | refuses e hs => rw [hs, hs]
  | writes found hs =>
    cases ht with
    | refuses e ht => rw [ht, ht]
    | writes answer ht =>
      -- each step finds the value that it would have found first
      have hfound : ((carryOut w t).record).resolve s.field = w.resolve s.field := by
        rw [ht]
        exact h.symm.resolve_write w _
      have hanswer : ((carryOut w s).record).resolve t.field = w.resolve t.field := by
        rw [hs]
        exact h.resolve_write w _
      rw [ht (carryOut w s).record, hs (carryOut w t).record, hfound, hanswer, hs w, ht w]
      exact Value.write_comm h.targets_part

/-! ### Runs -/

/-- A run of two independent steps and others succeeds in the other order, too. -/
theorem runSteps_exchange_of_ok (hs : ActsOnField carryOut s) (ht : ActsOnField carryOut t)
    (h : Independent s t)
    (hrun : (runSteps (fun _ => carryOut) [] (s :: t :: rest) w).1 = .ok out) :
    (runSteps (fun _ => carryOut) [] (t :: s :: rest) w).1 = .ok out := by
  rw [runSteps_const_cons_eq_ok_iff, runSteps_const_cons_eq_ok_iff] at hrun ⊢
  obtain ⟨hfirst, hsecond, hrest⟩ := hrun
  rw [countedFailure, failure_after hs ht h, ← countedFailure] at hsecond
  refine ⟨hsecond, ?_, ?_⟩
  · rw [countedFailure, failure_after ht hs h.symm, ← countedFailure]
    exact hfirst
  · rw [← record_comm hs ht h]
    exact hrest

theorem runSteps_exchange (hs : ActsOnField carryOut s) (ht : ActsOnField carryOut t)
    (h : Independent s t) :
    (runSteps (fun _ => carryOut) [] (s :: t :: rest) w).1 = .ok out ↔
      (runSteps (fun _ => carryOut) [] (t :: s :: rest) w).1 = .ok out :=
  ⟨runSteps_exchange_of_ok hs ht h, runSteps_exchange_of_ok ht hs h.symm⟩

/-- Runs that go on in the same way from every record can be put after the same steps. -/
theorem runSteps_append_congr (carryOut : Value → StepDefinition → StepOutcome)
    (first : List StepDefinition) (w : Value)
    (hlater : ∀ w, (runSteps (fun _ => carryOut) [] rest w).1 = .ok out ↔
      (runSteps (fun _ => carryOut) [] other w).1 = .ok out) :
    (runSteps (fun _ => carryOut) [] (first ++ rest) w).1 = .ok out ↔
      (runSteps (fun _ => carryOut) [] (first ++ other) w).1 = .ok out := by
  induction first generalizing w with
  | nil => exact hlater w
  | cons s first ih =>
    rw [List.cons_append, List.cons_append, runSteps_const_cons_eq_ok_iff,
      runSteps_const_cons_eq_ok_iff, ih]

/-- **Independent neighbours can change places.**  Wherever they stand in a pipeline, it
succeeds on a record if and only if it succeeds with the two in the other order, and with the
same record, without a store or with one that answers equal questions equally.  Nothing is said
of how it fails, as the two may fail in different ways and the first of them ends the run. -/
theorem apply_exchange (h : Independent s t) (p : Pipeline) (first rest : List StepDefinition)
    (now : Calendar.Instant) (record out : Value) :
    ({ p with steps := first ++ [s, t] ++ rest }.apply now record = .ok out ↔
      { p with steps := first ++ [t, s] ++ rest }.apply now record = .ok out) ∧
    ∀ access : LookupAccess, access.store.AnswersEqually →
      (({ p with steps := first ++ [s, t] ++ rest }.applyWithLookup access now record).1 = .ok out ↔
        ({ p with steps := first ++ [t, s] ++ rest }.applyWithLookup access now record).1 =
          .ok out) := by
  rw [List.append_assoc, List.append_assoc]
  constructor
  · refine runSteps_append_congr (p.perform now record) first record ?_
    intro w
    exact runSteps_exchange (p.actsOnField_perform now record s)
      (p.actsOnField_perform now record t) h
  · intro access haccess
    show (runSteps (p.performWithLookup access now record) [] _ record).1 = _ ↔
      (runSteps (p.performWithLookup access now record) [] _ record).1 = _
    rw [performWithLookup_eq haccess]
    refine runSteps_append_congr (p.performWithLookup access now record []) first record ?_
    intro w
    exact runSteps_exchange (p.actsOnField_performWithLookup access now record [] s)
      (p.actsOnField_performWithLookup access now record [] t) h

/-- The code of an article, written under a label. -/
def labelCode : StepDefinition :=
  { id := "1", field := "code", target := some "lines.1.label.code", kind := "TRIM" }

/-- The name of the article, written under the same label if there is a store to ask. -/
def labelName : StepDefinition :=
  { id := "2", field := "code", target := some "lines.01.label.name", kind := "LOOKUP",
    options := { entityType := some "Product", toField := some "name" }, isOptional := true }

/-- What the label says, repeated at the top. -/
def repeatLabel : StepDefinition :=
  { id := "3", field := "lines.1.label", target := some "label", kind := "TO_JSON" }

/-- An order of two lines, and an article for the second one. -/
def secondArticle : Value :=
  .obj [("code", .str " A "), ("lines", .arr [.null, .obj [("label", .null)]])]

/-- Two steps that would each open the same label change places; the second of them is passed
over if there is no store. -/
theorem apply_exchange_label :
    Independent labelCode labelName ∧
    (∃ out,
      { steps := [labelCode, labelName, repeatLabel] : Pipeline }.apply ⟨0, 0⟩ secondArticle =
        .ok out ∧
      { steps := [labelName, labelCode, repeatLabel] : Pipeline }.apply ⟨0, 0⟩ secondArticle =
        .ok out) ∧
    ∃ out,
      ({ steps := [labelCode, labelName, repeatLabel] : Pipeline }.applyWithLookup
        ⟨({} : Inventory).store, {}⟩ ⟨0, 0⟩ secondArticle).1 = .ok out ∧
      ({ steps := [labelName, labelCode, repeatLabel] : Pipeline }.applyWithLookup
        ⟨({} : Inventory).store, {}⟩ ⟨0, 0⟩ secondArticle).1 = .ok out := by
  have hindependent : Independent labelCode labelName :=
    ⟨by decide +kernel, by decide +kernel, by decide +kernel⟩
  have hexchange :=
    apply_exchange hindependent { steps := [] } [] [repeatLabel] ⟨0, 0⟩ secondArticle
  obtain ⟨out, hout⟩ := exists_ok_of_isOk
    (show ({ steps := [labelCode, labelName, repeatLabel] : Pipeline }.apply ⟨0, 0⟩
      secondArticle).isOk = true by decide +kernel)
  obtain ⟨found, hfound⟩ := exists_ok_of_isOk
    (show ({ steps := [labelCode, labelName, repeatLabel] : Pipeline }.applyWithLookup
      ⟨({} : Inventory).store, {}⟩ ⟨0, 0⟩ secondArticle).1.isOk = true by decide +kernel)
  exact ⟨hindependent, ⟨out, hout, (hexchange out).1.1 hout⟩,
    found, hfound, ((hexchange found).2 _ (Repository.answersEqually_ofStore _)).1 hfound⟩

end RecordFlow.Pipeline
