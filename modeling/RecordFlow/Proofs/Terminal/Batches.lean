import Mathlib.Data.List.Forall2
import RecordFlow.Proofs.Pipeline.Steps
import RecordFlow.Proofs.Text.Scanning
import RecordFlow.Terminal.Apply

/-!
# Batches of records

The records of a document are its items if it is an array, and the document itself otherwise.  A
batch is run record by record, up to the first one that fails (`mapM_eq_ok_iff`,
`mapM_eq_error`), and the outputs are put into the form of the document
(`transform_of_ofValue`).  The log is told of the records that are run: of all of them, or of
those up to the first one that fails (`upToFailure_of_forall`, `upToFailure_of_error`).

The form holds because runs keep it.  No step writes in place of the whole record, so that a
record that is an object is one after the run (`isObject_runRecord`).

## Main definitions

* `recordsOf` — the records of a document.
* `inForm` — some outputs in the form of a document.
* `KeepsForm` — a document of outputs has the form of the document of records.
-/

namespace RecordFlow.Terminal

open Text

variable {α β ε : Type} {f : α → Except ε β}

/-! ### One record after the other -/

/-- **All succeed** if each one does. -/
theorem mapM_eq_ok_iff {xs : List α} {ys : List β} :
    xs.mapM f = .ok ys ↔ List.Forall₂ (fun x y => f x = .ok y) xs ys := by
  induction xs generalizing ys with
  | nil =>
    rw [List.mapM_nil, List.forall₂_nil_left_iff]
    exact ⟨fun h => (Except.ok.inj h).symm, fun h => congrArg Except.ok h.symm⟩
  | cons x xs ih =>
    rw [List.mapM_cons]
    constructor
    · intro h
      cases hx : f x with
      | error e =>
        rw [hx] at h
        cases h
      | ok y =>
        cases hxs : xs.mapM f with
        | error e =>
          rw [hx, hxs] at h
          cases h
        | ok later =>
          rw [hx, hxs] at h
          cases h
          exact List.Forall₂.cons hx (ih.1 hxs)
    · rintro (_ | ⟨hx, hxs⟩)
      rw [hx, ih.2 hxs]
      rfl

/-- Each of those that all succeed does. -/
theorem exists_eq_ok {xs : List α} {ys : List β} (h : xs.mapM f = .ok ys) :
    ∀ x ∈ xs, ∃ y, f x = .ok y := by
  rw [mapM_eq_ok_iff] at h
  induction h with
  | nil => nofun
  | cons hx _ ih => exact List.forall_mem_cons.2 ⟨⟨_, hx⟩, ih⟩

/-- **The first failure is the failure of all.** -/
theorem mapM_eq_error {before after : List α} {x : α} {e : ε}
    (hbefore : ∀ y ∈ before, ∃ b, f y = .ok b) (hx : f x = .error e) :
    (before ++ x :: after).mapM f = .error e := by
  induction before with
  | nil =>
    rw [List.nil_append, List.mapM_cons, hx]
    rfl
  | cons y before ih =>
    obtain ⟨⟨b, hb⟩, hbefore⟩ := List.forall_mem_cons.1 hbefore
    rw [List.cons_append, List.mapM_cons, hb, ih hbefore]
    rfl

/-- Where no record fails, all of them are run. -/
theorem upToFailure_of_forall {run : Value → Except PipelineError Value} {records : List Value}
    (h : ∀ record ∈ records, ∃ output, run record = .ok output) :
    Batch.upToFailure run records = records := by
  induction records with
  | nil => rfl
  | cons record rest ih =>
    obtain ⟨⟨output, hrecord⟩, hrest⟩ := List.forall_mem_cons.1 h
    rw [Batch.upToFailure, hrecord]
    dsimp only
    rw [ih hrest]

/-- **Behind the first record that fails, none is run.** -/
theorem upToFailure_of_error {run : Value → Except PipelineError Value}
    {before after : List Value} {record : Value} {e : PipelineError}
    (hbefore : ∀ earlier ∈ before, ∃ output, run earlier = .ok output)
    (hrecord : run record = .error e) :
    Batch.upToFailure run (before ++ record :: after) = before ++ [record] := by
  induction before with
  | nil => rw [List.nil_append, Batch.upToFailure, hrecord, List.nil_append]
  | cons earlier before ih =>
    obtain ⟨⟨output, hearlier⟩, hbefore⟩ := List.forall_mem_cons.1 hbefore
    rw [List.cons_append, Batch.upToFailure, hearlier]
    dsimp only
    rw [ih hbefore, List.cons_append]

/-! ### Records and their form -/

/-- **The records of a document.**  One object counts as a batch of one record, and no other
value that is not an array is let through. -/
def recordsOf : Value → List Value
  | .arr items => items
  | v => [v]

/-- **Outputs in the form of a document:** an array if it is one, and the one output otherwise.
An array of one record is still an array. -/
def inForm : Value → List Value → Value
  | .arr _, outputs => .arr outputs
  | _, outputs => outputs.headD .null

/-- **The document keeps the form of the content:** it is the one output, an object, if the
content is one object, and the array of the outputs, as many as there are items, if it is an
array.  So one record in an array stays in an array, and no record is an empty one. -/
def KeepsForm (content : Value) (outputs : List Value) (document : Value) : Prop :=
  (∃ fields kept, content = .obj fields ∧ document = .obj kept ∧ outputs = [document]) ∨
    ∃ items, content = .arr items ∧ document = .arr outputs ∧ outputs.length = items.length

theorem KeepsForm.isObject_or_isArray {content document : Value} {outputs : List Value}
    (h : KeepsForm content outputs document) :
    Batch.isObject document = true ∨ document.isArray = true := by
  rcases h with ⟨fields, kept, -, rfl, -⟩ | ⟨items, -, rfl, -⟩
  · exact Or.inl rfl
  · exact Or.inr rfl

/-- **A batch is run record by record,** and the outputs are put into its form. -/
theorem transform_of_ofValue {content : Value}
    (h : ∀ record ∈ recordsOf content, Batch.isObject record = true) :
    ∃ batch, Batch.ofValue content = .ok batch ∧ batch.records = recordsOf content ∧ ∀ run,
      batch.transform run = ((recordsOf content).mapM run).map (inForm content) := by
  cases content with
  | obj fields =>
    refine ⟨.one (.obj fields), rfl, rfl, ?_⟩
    intro run
    show run (.obj fields) = ([Value.obj fields].mapM run).map _
    rw [List.mapM_cons]
    cases run (.obj fields) with
    | error e => rfl
    | ok output => rfl
  | arr items =>
    refine ⟨.many items, ?_, rfl, fun run => rfl⟩
    have hnone : items.findIdx? (!Batch.isObject ·) = none := by
      rw [List.findIdx?_eq_none_iff]
      intro record hrecord
      rw [h record hrecord]
      rfl
    rw [Batch.ofValue, hnone]
  | _ => exact absurd (h _ (List.mem_singleton_self _)) Bool.false_ne_true

/-! ### Runs keep objects -/

theorem exists_of_isObject {v : Value} (h : Batch.isObject v = true) :
    ∃ fields, v = .obj fields := by
  cases v with
  | obj fields => exact ⟨fields, rfl⟩
  | _ => cases h

/-- A write under a segment leaves an object an object. -/
theorem isObject_write {v : Value} {p : List String} (hv : Batch.isObject v = true) (hp : p ≠ [])
    (new : Value) : Batch.isObject (v.write p new).1 = true := by
  obtain ⟨segment, rest, rfl⟩ := List.exists_cons_of_ne_nil hp
  cases v with
  | obj fields => rfl
  | _ => cases hv

/-- **A step leaves an object an object,** whatever it comes to. -/
theorem isObject_of_possibleOutcome {s : StepDefinition} {working : Value} {o : StepOutcome}
    (h : Pipeline.PossibleOutcome s working o) (hworking : Batch.isObject working = true) :
    Batch.isObject o.record = true := by
  cases h with
  | failed e => exact hworking
  | written result effects => exact isObject_write hworking (segments_ne_nil _) result

/-- **A run makes an object of an object.** -/
theorem isObject_runRecord {p : Pipeline} {access : Option LookupAccess} {now : Calendar.Instant}
    {record output : Value} (hrecord : Batch.isObject record = true)
    (h : runRecord p access now record = .ok output) : Batch.isObject output = true := by
  cases access with
  | none =>
    exact Pipeline.runSteps_preserves (Batch.isObject · = true)
      (fun s _ _ w => isObject_of_possibleOutcome
        (Pipeline.possibleOutcome_perform p now record w s))
      hrecord h
  | some access =>
    exact Pipeline.runSteps_preserves (Batch.isObject · = true)
      (fun s _ earlier w => isObject_of_possibleOutcome
        (Pipeline.possibleOutcome_performWithLookup p access now record earlier w s))
      hrecord h

end RecordFlow.Terminal
