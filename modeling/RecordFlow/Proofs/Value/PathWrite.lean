import RecordFlow.Proofs.Text.Scanning
import RecordFlow.Value.Path

/-!
# Writing at paths

Three facts about writing a value under the segments of a path, each proved once by induction
along the segments.

* **A write happens or does not** (`write_eq_put`).  A write opens objects on its way, and what
  it has opened stays open if it is stopped further down.  It never is: a write is only stopped
  by what stands in the value already, and once it has opened an object it goes on in objects of
  its own (`exists_put_nil`).
* **What stops a write is there already** (`write_snd`).  Whether a write is stopped, and by
  what, is settled by the way to the target alone, whatever is written.
* **A write is local** (`follow?_write`).  What stands at a path that parts ways with the target
  is the same before and after, however the target got there.

Two paths part ways when they differ at a place that both have.  It is not enough that the
segments are different texts: `1` and `01` lead to the same item of an array.

## Main definitions

* `SegmentsPart` — two segments that lead to different places in every value.
* `PartWays`, `PathsPart` — the same of rows of segments and of paths.
* `Value.obstacle?` — what gets in the way of a write.
-/

namespace RecordFlow

/-! ### Paths that part ways -/

/-- **Two segments part ways:** they are different texts and do not both spell the same array
index.  It is not enough that they are different, since `1` and `01` lead to the same item. -/
def SegmentsPart (a b : String) : Prop :=
  a ≠ b ∧ ¬ ((indexOf? a).isSome ∧ indexOf? a = indexOf? b)

instance (a b : String) : Decidable (SegmentsPart a b) :=
  inferInstanceAs (Decidable (_ ∧ _))

/-- Segments part ways at a place that both rows have.  Where one row goes on from the end of
the other they do not: what the longer one leads to is within what the shorter one leads to. -/
def PartWays (p q : List String) : Prop :=
  ∃ pair ∈ p.zip q, SegmentsPart pair.1 pair.2

instance (p q : List String) : Decidable (PartWays p q) :=
  inferInstanceAs (Decidable (∃ pair ∈ p.zip q, _))

/-- **Two paths part ways.** -/
def PathsPart (p q : String) : Prop :=
  PartWays (segments p) (segments q)

instance (p q : String) : Decidable (PathsPart p q) :=
  inferInstanceAs (Decidable (PartWays _ _))

theorem partWays_cons {a b : String} {p q : List String} :
    PartWays (a :: p) (b :: q) ↔ SegmentsPart a b ∨ PartWays p q := by
  simp [PartWays]

theorem not_partWays_nil (p : List String) : ¬ PartWays p [] := by
  simp [PartWays]

theorem not_segmentsPart_self (a : String) : ¬ SegmentsPart a a :=
  fun h => h.1 rfl

theorem not_segmentsPart_of_indexOf? {a b : String} {i : Nat} (ha : indexOf? a = some i)
    (hb : indexOf? b = some i) : ¬ SegmentsPart a b := by
  rintro ⟨-, h⟩
  exact h ⟨by rw [ha]; rfl, by rw [ha, hb]⟩

/-- Every path has a segment. -/
theorem segments_ne_nil (path : String) : segments path ≠ [] := by
  rw [segments, Ne, List.map_eq_nil_iff]
  exact Text.splitOn_ne_nil _ _

namespace Value

variable {v w : Value} {p q : List String} {new : Value}

/-! ### Going on in a value -/

theorem follow?_cons (v : Value) (segment : String) (rest : List String) :
    v.follow? (segment :: rest) = (v.child? segment).bind (follow? · rest) := rfl

/-- A write goes on in an empty object of its own, or in what stands there. -/
theorem opened_cases (o : Option Value) : opened o = obj [] ∨ o = some (opened o) := by
  cases o with
  | none => exact Or.inl rfl
  | some v =>
    cases v with
    | null => exact Or.inl rfl
    | _ => exact Or.inr rfl

/-- What a write has just opened leads nowhere, as what was there did. -/
theorem follow?_opened (o : Option Value) (hq : q ≠ []) :
    (opened o).follow? q = o.bind (follow? · q) := by
  obtain ⟨b, rest, rfl⟩ := List.exists_cons_of_ne_nil hq
  cases o with
  | none => rfl
  | some v =>
    cases v with
    | null => rfl
    | _ => rfl

/-- The item that a write into an array goes on in. -/
theorem item_found {items : List Value} {segment : String} {i : Nat} {item : Value}
    (h : ((indexOf? segment).bind fun i => items[i]?.map (i, ·)) = some (i, item)) :
    indexOf? segment = some i ∧ items[i]? = some item := by
  simp only [Option.bind_eq_some_iff, Option.map_eq_some_iff, Prod.mk.injEq] at h
  obtain ⟨j, hj, found, hfound, hji, hitem⟩ := h
  rw [← hji, ← hitem]
  exact ⟨hj, hfound⟩

/-- Setting an item to the value it has changes nothing. -/
theorem set_of_getElem? {items : List Value} {i : Nat} {item : Value}
    (h : items[i]? = some item) : items.set i item = items := by
  obtain ⟨hi, rfl⟩ := List.getElem?_eq_some_iff.1 h
  exact List.set_getElem_self hi

/-! ### A write happens or does not -/

/-- Nothing stops a write in an empty object. -/
theorem exists_put_nil (p : List String) (new : Value) : ∃ w, (obj []).put p new = .ok w := by
  induction p with
  | nil => exact ⟨new, rfl⟩
  | cons segment rest ih =>
    obtain ⟨w, hw⟩ := ih
    refine ⟨obj (Fields.insert [] segment w), ?_⟩
    rw [put, Fields.get?, opened, hw]
    rfl

/-- What a write is stopped in was there before. -/
theorem eq_some_opened_of_put_error {o : Option Value} {e : WriteObstacle}
    (h : (opened o).put p new = .error e) : o = some (opened o) := by
  rcases opened_cases o with hopened | hopened
  · obtain ⟨w, hw⟩ := exists_put_nil p new
    rw [hopened, hw] at h
    cases h
  · exact hopened

/-- **A write happens or does not.**  Writing in place leaves the value written, or leaves the
value as it was and says what got in the way. -/
theorem write_eq_put (v : Value) (p : List String) (new : Value) :
    v.write p new =
      match v.put p new with
      | .ok w => (w, none)
      | .error e => (v, some e) := by
  induction p generalizing v with
  | nil => rw [write, put]
  | cons segment rest ih =>
    cases v with
    | obj fields =>
      rw [write, put, ih]
      cases hput : (opened (Fields.get? fields segment)).put rest new with
      | ok inner => rfl
      | error e =>
        have hthere := eq_some_opened_of_put_error hput
        simp only [Except.map, Fields.insert_of_get? hthere]
    | arr items =>
      rw [write, put]
      cases hitem : (indexOf? segment).bind fun i => items[i]?.map (i, ·) with
      | none => rfl
      | some found =>
        obtain ⟨i, item⟩ := found
        obtain ⟨-, hitem⟩ := item_found hitem
        simp only [ih]
        cases hput : (opened (some item)).put rest new with
        | ok inner => rfl
        | error e =>
          have hthere := Option.some.inj (eq_some_opened_of_put_error hput)
          simp only [Except.map, ← hthere, set_of_getElem? hitem]
    | _ => rfl

/-- A write that is stopped leaves the value as it was. -/
theorem write_of_isSome (h : (v.write p new).2.isSome = true) : (v.write p new).1 = v := by
  rw [write_eq_put] at h ⊢
  split at h
  · exact absurd h Bool.false_ne_true
  · rfl

/-! ### What gets in the way of a write -/

/-- **What gets in the way of a write under some segments:** the first value on the way that a
write cannot go on in. -/
def obstacle? : Value → List String → Option WriteObstacle
  | _, [] => none
  | obj fields, segment :: rest => (opened (Fields.get? fields segment)).obstacle? rest
  | arr items, segment :: rest =>
    match (indexOf? segment).bind (items[·]?) with
    | none => some (.badIndex segment items.length)
    | some item => (opened (some item)).obstacle? rest
  | _, segment :: _ => some (.notContainer segment)

/-- **Whether a write is stopped does not depend on what is written.** -/
theorem write_snd (v : Value) (p : List String) (new : Value) :
    (v.write p new).2 = v.obstacle? p := by
  induction p generalizing v with
  | nil => rw [write, obstacle?]
  | cons segment rest ih =>
    cases v with
    | obj fields =>
      rw [write, obstacle?]
      exact ih (opened (Fields.get? fields segment))
    | arr items =>
      rw [write, obstacle?]
      cases hindex : indexOf? segment with
      | none => rfl
      | some i =>
        cases hitem : items[i]? with
        | none =>
          simp only [Option.bind_some, hitem]
          rfl
        | some item =>
          simp only [Option.bind_some, hitem]
          exact ih (opened (some item))
    | _ => rfl

/-! ### A write is local -/

/-- **What stands at a path that parts ways with the target stays.**  The induction is along
both rows of segments.  Where the present segments lead to the same place, the paths part
further down, so that the rest of the second one is not empty there: a write that opens an
object then shows nothing new (`follow?_opened`). -/
theorem follow?_write (h : PartWays p q) : (v.write p new).1.follow? q = v.follow? q := by
  induction p generalizing v q with
  | nil => simp [PartWays] at h
  | cons a p ih =>
    cases q with
    | nil => exact absurd h (not_partWays_nil (a :: p))
    | cons b q =>
      rw [partWays_cons] at h
      -- below, the present segments turn out to lead to the same place
      have hbelow (hsame : ¬ SegmentsPart a b) (o : Option Value) :
          ((opened o).write p new).1.follow? q = o.bind (follow? · q) := by
        have hrest := h.resolve_left hsame
        rw [ih hrest, follow?_opened]
        rintro rfl
        exact not_partWays_nil p hrest
      cases v with
      | obj fields =>
        rw [write, follow?_cons, follow?_cons]
        show (Fields.get? (Fields.insert fields a _) b).bind _ = _
        rw [Fields.get?_insert]
        split
        · next hab =>
          subst hab
          exact hbelow (not_segmentsPart_self a) (Fields.get? fields a)
        · rfl
      | arr items =>
        rw [write]
        split
        · rfl
        · next i item hitem =>
          obtain ⟨ha, hitem⟩ := item_found hitem
          rw [follow?_cons, follow?_cons, child?, child?]
          cases hb : indexOf? b with
          | none => rfl
          | some j =>
            simp only [Option.bind_some]
            by_cases hij : i = j
            · subst hij
              have hlt : i < items.length := (List.getElem?_eq_some_iff.1 hitem).1
              rw [List.getElem?_set_self hlt, hitem]
              exact hbelow (not_segmentsPart_of_indexOf? ha hb) (some item)
            · rw [List.getElem?_set_ne hij]
      | _ => rfl

/-- What stands at a path that parts ways with the target stays. -/
theorem resolve?_write {target path : String} (h : PathsPart target path) :
    (v.write (segments target) new).1.resolve? path = v.resolve? path :=
  follow?_write h

end Value

end RecordFlow
