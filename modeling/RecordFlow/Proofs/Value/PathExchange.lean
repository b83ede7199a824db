import RecordFlow.Proofs.Value.Fields
import RecordFlow.Proofs.Value.PathWrite

/-!
# Two writes at paths that part ways

Two writes whose targets part ways do not disturb each other: what gets in the way of the one is
the same before and after the other (`Value.obstacle?_write`), and they leave the same value in
either order, whether they happen or not (`Value.write_comm`).

Both are inductions along the two rows of segments.  Above the place where the targets part, the
writes may open the same objects.  Whichever comes first opens them, and the other finds them
open (`Value.opened_written`); this is where the targets have to part further down, since a
write that ends in such a place could leave null there.  Segments that do not part ways need not
lead to the same place, either: `1` and `01` are one item of an array and two fields of an
object.

## Main definitions

* `Value.written` — what a write leaves in the place that its first segment leads to.
-/

namespace RecordFlow

/-! ### Parting ways from either side -/

theorem segmentsPart_comm {a b : String} : SegmentsPart a b ↔ SegmentsPart b a := by
  have hdir {a b : String} (h : SegmentsPart a b) : SegmentsPart b a := by
    refine ⟨h.1.symm, ?_⟩
    rintro ⟨hsome, heq⟩
    exact h.2 ⟨heq ▸ hsome, heq.symm⟩
  exact ⟨hdir, hdir⟩

theorem partWays_comm {p q : List String} : PartWays p q ↔ PartWays q p := by
  induction p generalizing q with
  | nil => simp [PartWays]
  | cons a p ih =>
    cases q with
    | nil => simp [PartWays]
    | cons b q => rw [partWays_cons, partWays_cons, segmentsPart_comm, ih]

theorem PartWays.ne_nil {p q : List String} (h : PartWays p q) : p ≠ [] := by
  rintro rfl
  simp [PartWays] at h

theorem PathsPart.symm {p q : String} (h : PathsPart p q) : PathsPart q p :=
  partWays_comm.1 h

namespace Value

variable {v : Value} {p q : List String} {x y : Value}

/-! ### One write, at its first segment -/

/-- **What a write leaves in the place that its first segment leads to,** given what stands
there. -/
def written (p : List String) (new : Value) (o : Option Value) : Value :=
  ((opened o).write p new).1

theorem write_obj (fields : Fields) (a : String) (p : List String) (new : Value) :
    ((obj fields).write (a :: p) new).1 =
      obj (Fields.insert fields a (written p new (Fields.get? fields a))) := rfl

/-- A write into an array changes the item that the segment is the index of, if there is one. -/
theorem write_arr (items : List Value) (a : String) (p : List String) (new : Value) :
    ((arr items).write (a :: p) new).1 =
      arr ((indexOf? a).elim items fun i => items.modify i fun item => written p new item) := by
  rw [write]
  cases indexOf? a with
  | none => rfl
  | some i =>
    cases hitem : items[i]? with
    | none =>
      have hlength := List.getElem?_eq_none_iff.1 hitem
      simp only [Option.bind_some, hitem, Option.map_none, Option.elim_some,
        List.modify_eq_self hlength]
    | some item =>
      simp only [Option.bind_some, hitem, Option.map_some, Option.elim_some,
        List.modify_eq_set, Option.getD_some]
      rfl

theorem opened_ne_null (o : Option Value) : opened o ≠ null := by
  rcases o with _ | (_ | _ | _ | _ | _ | _) <;> rintro ⟨⟩

/-- A write below a value leaves a value of its kind. -/
theorem write_ne_null (hv : v ≠ null) (hp : p ≠ []) (new : Value) : (v.write p new).1 ≠ null := by
  obtain ⟨a, rest, rfl⟩ := List.exists_cons_of_ne_nil hp
  cases v with
  | null => exact hv
  | arr items =>
    rw [write_arr]
    rintro ⟨⟩
  | _ => rintro ⟨⟩

theorem opened_of_ne_null (hv : v ≠ null) : opened (some v) = v := by
  cases v with
  | null => exact absurd rfl hv
  | _ => rfl

/-- **A write that has gone on below a place leaves it open.** -/
theorem opened_written (hp : p ≠ []) (new : Value) (o : Option Value) :
    opened (some (written p new o)) = written p new o :=
  opened_of_ne_null (write_ne_null (opened_ne_null o) hp new)

theorem written_written (hp : p ≠ []) (q : List String) (x y : Value) (o : Option Value) :
    written q y (some (written p x o)) = ((written p x o).write q y).1 :=
  congrArg (fun v => (v.write q y).1) (opened_written hp x o)

/-! ### Two writes -/

/-- **Another write gets nothing in the way,** nor does it clear the way. -/
theorem obstacle?_write (h : PartWays p q) : (v.write p x).1.obstacle? q = v.obstacle? q := by
  induction p generalizing v q with
  | nil => simp [PartWays] at h
  | cons a p ih =>
    cases q with
    | nil => exact absurd h (not_partWays_nil (a :: p))
    | cons b q =>
      rw [partWays_cons] at h
      -- below, the present segments turn out to lead to the same place
      have hbelow (hsame : ¬ SegmentsPart a b) (o : Option Value) :
          (opened (some (written p x o))).obstacle? q = (opened o).obstacle? q := by
        have hrest := h.resolve_left hsame
        rw [opened_written hrest.ne_nil]
        exact ih hrest
      cases v with
      | obj fields =>
        rw [write_obj, obstacle?, obstacle?, Fields.get?_insert]
        split
        · next hab =>
          subst hab
          exact hbelow (not_segmentsPart_self a) (Fields.get? fields a)
        · rfl
      | arr items =>
        rw [write_arr]
        cases ha : indexOf? a with
        | none => rfl
        | some i =>
          cases hb : indexOf? b with
          | none =>
            simp only [obstacle?, hb, Option.elim_some, Option.bind_none, List.length_modify]
          | some j =>
            simp only [obstacle?, hb, Option.elim_some, Option.bind_some, List.length_modify,
              List.getElem?_modify]
            cases items[j]? with
            | none => rfl
            | some item =>
              by_cases hij : i = j
              · subst hij
                simp only [if_true]
                exact hbelow (not_segmentsPart_of_indexOf? ha hb) (some item)
              · simp only [if_neg hij]
                rfl
      | _ => rfl

/-- **Two writes whose targets part ways leave the same value in either order,** whether they
happen or not. -/
theorem write_comm (h : PartWays p q) :
    ((v.write p x).1.write q y).1 = ((v.write q y).1.write p x).1 := by
  induction p generalizing v q with
  | nil => simp [PartWays] at h
  | cons a p ih =>
    cases q with
    | nil => exact absurd h (not_partWays_nil (a :: p))
    | cons b q =>
      rw [partWays_cons] at h
      have hbelow (hsame : ¬ SegmentsPart a b) (o : Option Value) :
          written q y (some (written p x o)) = written p x (some (written q y o)) := by
        have hrest := h.resolve_left hsame
        rw [written_written hrest.ne_nil, written_written (partWays_comm.1 hrest).ne_nil]
        exact ih hrest
      cases v with
      | obj fields =>
        simp only [write_obj, Fields.get?_insert]
        by_cases hab : a = b
        · subst hab
          simp only [if_true, Fields.insert_insert,
            hbelow (not_segmentsPart_self a) (Fields.get? fields a)]
        · simp only [if_neg hab, if_neg (Ne.symm hab), Fields.insert_comm hab]
      | arr items =>
        simp only [write_arr]
        cases ha : indexOf? a with
        | none => rfl
        | some i =>
          cases hb : indexOf? b with
          | none => rfl
          | some j =>
            simp only [Option.elim_some]
            by_cases hij : i = j
            · subst hij
              have hsame := not_segmentsPart_of_indexOf? ha hb
              rw [List.modify_modify_eq, List.modify_modify_eq]
              congr 2
              funext item
              exact hbelow hsame (some item)
            · rw [List.modify_modify_ne _ _ _ hij]
      | _ => rfl

end Value

end RecordFlow
