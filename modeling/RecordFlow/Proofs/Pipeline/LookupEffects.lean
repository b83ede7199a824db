import Mathlib.Data.List.Basic
import RecordFlow.Proofs.Pipeline.Steps

/-!
# What lookups ask and say

A lookup has effects only where there is a value to look for and the options lead to a store.
Then it asks one question if the options name a type of entities (`plan_of_entityType`), and
gives a warning if they do not (`exists_plan_eq_refuse`) or if the store fails.  It never does
more (`accounted_lookUp`).

In a run nothing else has effects: a step that is not a lookup asks nothing and says nothing
(`effects_performWithLookup`), and what a run asks and says is put together from what its steps
do (`part_runSteps`), so from its lookups alone (`part_applyWithLookup`).

## Main definitions

* `Options.AsksStore` — the options lead to a store.
* `Accounted` — what one lookup asks and says.
* `Pipeline.executedLookups` — the lookups that a run carries out.
* `Pipeline.CarriedOut.lookedUp` — the answer to one of them, with its effects.
-/

namespace RecordFlow

/-! ### Plans -/

namespace Options

variable {o : Options} {v : Value} {type : EntityType}

/-- **The options lead to a store:** they say so, or they say nothing and name a type of
entities.  Otherwise no question is asked, whatever else they say. -/
def AsksStore (o : Options) : Prop :=
  o.lookupMode = some .entity ∨ o.lookupMode = none ∧ o.entityType.isSome = true

theorem effectiveMode_eq_entity_iff : o.effectiveMode = some .entity ↔ o.AsksStore := by
  unfold effectiveMode AsksStore
  cases o.lookupMode with
  | some mode => simp
  | none =>
    cases o.entityType with
    | some name => simp
    | none => simp

/-- Without a value to look for, and where the options do not lead to a store, the answer is
there without one. -/
theorem exists_plan_eq_answer (h : ¬ (v ≠ .null ∧ o.AsksStore)) : ∃ w, o.plan v = .answer w := by
  by_cases hv : v = .null
  · subst hv
    exact ⟨.null, rfl⟩
  · have hmode : o.effectiveMode ≠ some .entity :=
      fun hmode => h ⟨hv, effectiveMode_eq_entity_iff.1 hmode⟩
    unfold plan
    split
    · exact absurd rfl hv
    · split
      · exact ⟨_, rfl⟩
      · exact ⟨_, rfl⟩
      · next hentity => exact absurd hentity hmode

/-- In a store one looks among the entities of the type that the options name. -/
theorem plan_of_asksStore (hv : v ≠ .null) (h : o.AsksStore) :
    o.plan v =
      match o.entityType with
      | none => .refuse "Entity lookup configured without an entityType"
      | some name =>
        match EntityType.ofName? name with
        | none => .refuse (LookupError.unknownEntityType name).message
        | some type => .ask type (o.fromField.getD "code") (o.toField.getD "id") := by
  unfold plan
  rw [effectiveMode_eq_entity_iff.2 h]
  cases v with
  | null => exact absurd rfl hv
  | _ => rfl

/-- **A lookup asks** if the options name one of the types. -/
theorem plan_of_entityType (hv : v ≠ .null) (h : o.AsksStore)
    (htype : o.entityType = some type.name) :
    o.plan v = .ask type (o.fromField.getD "code") (o.toField.getD "id") := by
  have hname : EntityType.ofName? type.name = some type := EntityType.ofName?_eq_some_iff.2 rfl
  simp only [plan_of_asksStore hv h, htype, hname]

/-- **A lookup does not know what to ask for** if they name none. -/
theorem exists_plan_eq_refuse (hv : v ≠ .null) (h : o.AsksStore)
    (htype : ∀ type : EntityType, o.entityType ≠ some type.name) :
    ∃ warning, o.plan v = .refuse warning := by
  rw [plan_of_asksStore hv h]
  split
  · exact ⟨_, rfl⟩
  · next name hname =>
    split
    · exact ⟨_, rfl⟩
    · next found hfound =>
      rw [EntityType.ofName?_eq_some_iff.1 hfound] at hname
      exact absurd hname (htype found)

end Options

/-! ### One lookup -/

/-- **What a lookup asks and says.**  It asks once if there is a value to look for and the
options lead to a store and name a type of entities; it gives one warning if there is a value,
the options lead to a store, and either they name no type or the store fails; and it does
nothing else. -/
structure Accounted (store : Store) (request : Request) (o : Options) (v answer : Value)
    (effects : Effects) : Prop where
  /-- At most one question is asked. -/
  finds_le : effects.finds.length ≤ 1
  /-- When a question is asked. -/
  asks_iff : effects.finds.length = 1 ↔
    v ≠ .null ∧ o.AsksStore ∧ ∃ type : EntityType, o.entityType = some type.name
  /-- What is asked. -/
  asked : ∀ find ∈ effects.finds, o.entityType = some find.type.name ∧
    find.filter = [(o.fromField.getD "code", v)] ∧ find.request = request
  /-- At most one warning is given. -/
  warnings_le : effects.warnings.length ≤ 1
  /-- When a warning is given. -/
  warns_iff : effects.warnings.length = 1 ↔
    v ≠ .null ∧ o.AsksStore ∧
      ((∀ type : EntityType, o.entityType ≠ some type.name) ∨
        ∃ find ∈ effects.finds, ∃ e, store find.request find.type find.filter = .error e)
  /-- With a warning the answer is null. -/
  answer_eq_null : effects.warnings ≠ [] → answer = .null

variable {store : Store} {request : Request} {o : Options} {v : Value}

/-- A lookup that asks asks once, and gives a warning if the store fails. -/
theorem accounted_of_asks {type : EntityType} (hv : v ≠ .null) (hstore : o.AsksStore)
    (htype : o.entityType = some type.name) :
    Accounted store request o v (lookUp store request o v).1 (lookUp store request o v).2 := by
  have hasks : v ≠ .null ∧ o.AsksStore ∧ ∃ type : EntityType, o.entityType = some type.name :=
    ⟨hv, hstore, type, htype⟩
  have hasked : ∀ find ∈ [(⟨type, [(o.fromField.getD "code", v)], request⟩ : Find)],
      o.entityType = some find.type.name ∧
        find.filter = [(o.fromField.getD "code", v)] ∧ find.request = request := by
    intro find hfind
    rw [List.mem_singleton] at hfind
    subst hfind
    exact ⟨htype, rfl, rfl⟩
  -- a store that answers, with an entity or with none, leaves nothing to warn of
  have hanswered : ∀ found, store request type [(o.fromField.getD "code", v)] = .ok found →
      ∀ answer, Accounted store request o v answer
        ⟨[⟨type, [(o.fromField.getD "code", v)], request⟩], []⟩ := by
    intro found hanswer answer
    refine ⟨le_rfl, iff_of_true rfl hasks, hasked, Nat.zero_le _,
      iff_of_false Nat.zero_ne_one ?_, fun h => absurd rfl h⟩
    rintro ⟨-, -, hunknown | ⟨find, hfind, e, herror⟩⟩
    · exact hunknown type htype
    · rw [List.mem_singleton] at hfind
      rw [hfind, hanswer] at herror
      cases herror
  unfold lookUp
  rw [Options.plan_of_entityType hv hstore htype]
  cases hanswer : store request type [(o.fromField.getD "code", v)] with
  | ok found =>
    cases found with
    | some entity =>
      simp only [hanswer]
      exact hanswered _ hanswer _
    | none =>
      simp only [hanswer]
      exact hanswered _ hanswer _
  | error e =>
    simp only [hanswer]
    exact ⟨le_rfl, iff_of_true rfl hasks, hasked, le_rfl,
      iff_of_true rfl ⟨hv, hstore, Or.inr ⟨_, List.mem_singleton.2 rfl, e, hanswer⟩⟩, fun _ => rfl⟩

/-- A lookup that does not know what to ask for says so. -/
theorem accounted_of_refuses (hv : v ≠ .null) (hstore : o.AsksStore)
    (htype : ∀ type : EntityType, o.entityType ≠ some type.name) :
    Accounted store request o v (lookUp store request o v).1 (lookUp store request o v).2 := by
  obtain ⟨warning, hplan⟩ := Options.exists_plan_eq_refuse hv hstore htype
  unfold lookUp
  rw [hplan]
  have hasks : ¬ (v ≠ .null ∧ o.AsksStore ∧
      ∃ type : EntityType, o.entityType = some type.name) :=
    fun ⟨_, _, type, heq⟩ => htype type heq
  exact ⟨Nat.zero_le _, iff_of_false Nat.zero_ne_one hasks, List.forall_mem_nil _, le_rfl,
    iff_of_true rfl ⟨hv, hstore, Or.inl htype⟩, fun _ => rfl⟩

/-- Every other lookup does nothing. -/
theorem accounted_of_answers (h : ¬ (v ≠ .null ∧ o.AsksStore)) :
    Accounted store request o v (lookUp store request o v).1 (lookUp store request o v).2 := by
  obtain ⟨w, hplan⟩ := Options.exists_plan_eq_answer h
  unfold lookUp
  rw [hplan]
  exact ⟨Nat.zero_le _, iff_of_false Nat.zero_ne_one fun hasks => h ⟨hasks.1, hasks.2.1⟩,
    List.forall_mem_nil _, Nat.zero_le _,
    iff_of_false Nat.zero_ne_one fun hwarns => h ⟨hwarns.1, hwarns.2.1⟩, fun hw => absurd rfl hw⟩

/-- **What every lookup asks and says.** -/
theorem accounted_lookUp (store : Store) (request : Request) (o : Options) (v : Value) :
    Accounted store request o v (lookUp store request o v).1 (lookUp store request o v).2 := by
  by_cases hasks : v ≠ .null ∧ o.AsksStore
  · obtain ⟨hv, hstore⟩ := hasks
    by_cases htype : ∃ type : EntityType, o.entityType = some type.name
    · obtain ⟨type, htype⟩ := htype
      exact accounted_of_asks hv hstore htype
    · exact accounted_of_refuses hv hstore (not_exists.1 htype)
  · exact accounted_of_answers hasks

namespace Pipeline

variable {p : Pipeline} {access : LookupAccess} {now : Calendar.Instant}
variable {carryOut : StepRunner}

/-! ### One step, and a run -/

/-- **A step that is not a lookup has no effects,** and one that is has those of looking up what
it reads. -/
theorem effects_performWithLookup (p : Pipeline) (access : LookupAccess) (now : Calendar.Instant)
    (initial : Value) (earlier : List Find) (working : Value) (s : StepDefinition) :
    (p.performWithLookup access now initial earlier working s).effects =
      if s.kind = StepKind.lookup.identifier then
        (lookUp (access.store.after earlier) access.request s.options
          (working.resolve s.field)).2
      else .none := by
  unfold performWithLookup
  by_cases hkind : s.kind = StepKind.lookup.identifier
  · rw [resolve_lookup hkind, if_pos hkind]
    rfl
  · rw [if_neg hkind]
    rcases resolve_of_ne (p := p) hkind with ⟨handler, hresolve⟩ | hresolve
    · rw [hresolve]
      rfl
    · rw [hresolve]

/-- **What a run asks, and what it says,** is put together from what the steps ask or say that
it carries out, in order. -/
theorem part_runSteps {α : Type} {part : Effects → List α} (hnone : part .none = [])
    (happend : ∀ a b, part (a ++ b) = part a ++ part b)
    (carryOut : StepRunner) (earlier : List Find) (steps : List StepDefinition)
    (working : Value) :
    part (runSteps carryOut earlier steps working).2 =
      (carriedOut carryOut earlier steps working).flatMap fun c => part c.outcome.effects := by
  induction steps generalizing earlier working with
  | nil => exact hnone
  | cons s rest ih =>
    rw [runSteps_cons, carriedOut, List.flatMap_cons]
    cases countedFailure s (carryOut earlier working s) with
    | some e => exact (List.append_nil _).symm
    | none => exact (happend _ _).trans (congrArg _ (ih _ _))

/-- **The lookups that a run carries out,** in order.  Those behind the step at which a run
fails are not among them, and those of optional steps are, even where nothing could be
written. -/
def executedLookups (p : Pipeline) (access : LookupAccess) (now : Calendar.Instant)
    (record : Value) : List CarriedOut :=
  (carriedOut (p.performWithLookup access now record) [] p.steps record).filter
    (·.step.kind == StepKind.lookup.identifier)

/-- What a step that was carried out has looked up, if it is a lookup, in the store as the
earlier questions of the run have left it. -/
def CarriedOut.lookedUp (access : LookupAccess) (c : CarriedOut) : Value × Effects :=
  lookUp (access.store.after c.earlier) access.request c.step.options
    (c.before.resolve c.step.field)

/-- Of the steps of a run only the lookups ask or say anything. -/
theorem part_applyWithLookup {α : Type} {part : Effects → List α} (hnone : part .none = [])
    (happend : ∀ a b, part (a ++ b) = part a ++ part b) (p : Pipeline) (access : LookupAccess)
    (now : Calendar.Instant) (record : Value) :
    part (p.applyWithLookup access now record).2 =
      (p.executedLookups access now record).flatMap fun c => part (c.lookedUp access).2 := by
  rw [applyWithLookup, part_runSteps hnone happend]
  have heffects : ∀ c ∈ carriedOut (p.performWithLookup access now record) [] p.steps record,
      part c.outcome.effects =
        if c.step.kind == StepKind.lookup.identifier then part (c.lookedUp access).2 else [] := by
    intro c hc
    rw [outcome_of_mem_carriedOut hc, effects_performWithLookup]
    by_cases hkind : c.step.kind = StepKind.lookup.identifier
    · rw [if_pos hkind, if_pos (beq_iff_eq.2 hkind)]
      rfl
    · rw [if_neg hkind, if_neg (mt beq_iff_eq.1 hkind), hnone]
  rw [List.flatMap_congr heffects, executedLookups]
  generalize carriedOut (p.performWithLookup access now record) [] p.steps record = steps
  induction steps with
  | nil => rfl
  | cons c rest ih =>
    rw [List.flatMap_cons, List.filter_cons, ih]
    split <;> rfl

/-- **Lookups account for everything that is asked and said.**  Each of them, at whatever moment
it comes, asks and says what there is to ask and say, and a run asks and says what the lookups
do that it carries out, in their order.  So the questions and the warnings of a run can be told
from its steps, and nothing else of a pipeline can reach a store. -/
theorem applyWithLookup_effects (access : LookupAccess) :
    (∀ earlier o v, Accounted (access.store.after earlier) access.request o v
      (lookUp (access.store.after earlier) access.request o v).1
      (lookUp (access.store.after earlier) access.request o v).2) ∧
    ∀ (p : Pipeline) (now : Calendar.Instant) (record : Value),
      (p.applyWithLookup access now record).2.finds =
          ((p.executedLookups access now record).flatMap fun c => (c.lookedUp access).2.finds) ∧
        (p.applyWithLookup access now record).2.warnings =
          (p.executedLookups access now record).flatMap
            fun c => (c.lookedUp access).2.warnings := by
  refine ⟨fun earlier => accounted_lookUp (access.store.after earlier) access.request,
    fun p now record => ⟨?_, ?_⟩⟩
  · exact part_applyWithLookup rfl (fun _ _ => rfl) p access now record
  · exact part_applyWithLookup rfl (fun _ _ => rfl) p access now record

end Pipeline

end RecordFlow
