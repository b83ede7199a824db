import RecordFlow.Proofs.Value.PathExchange

/-!
# Reading and writing at one path

A write and a read at the same path are the two halves of a lens (`Value.write_lens`): what is
written is read back, of two writes the later one counts, and writing what is there already
changes nothing.  Beside `Value.follow?_write`, which speaks of paths that part ways with the
target, this settles the target itself and all that lies under it.

A write happens unless something on the way stops it.  What that can be is told from reading
alone (`Value.obstacle?_eq_none_iff`): a boolean, a number or a string on the way, an array
where the next segment is no index of an item, or a null at the very beginning.  A null further
down does not stop a write, and neither does a field that is not there; this is what
`Value.opened` is about, and every induction below is carried past an opened place.

## Main definitions

* `Value.Stops` — a value that no write goes on in under a segment.
* `Value.IsClear` — nothing that is read on the way stops a write.
-/

namespace RecordFlow

open Text

/-- The segments of a path and of one below it, with a point between them. -/
theorem segments_append (path further : String) :
    segments (path ++ "." ++ further) = segments path ++ segments further := by
  have htext : (path ++ "." ++ further).toList = path.toList ++ '.' :: further.toList := by
    rw [String.toList_append, String.toList_append, List.append_assoc]
    rfl
  rw [segments, htext, splitOn_singleton_append, List.map_append]
  rfl

namespace Value

variable {v w x : Value} {a : String} {p q : List String}

theorem follow?_append (v : Value) (p q : List String) :
    v.follow? (p ++ q) = (v.follow? p).bind (follow? · q) := by
  induction p generalizing v with
  | nil => rfl
  | cons a p ih =>
    rw [List.cons_append, follow?_cons, follow?_cons, Option.bind_assoc]
    simp only [ih]

/-! ### What stops a write -/

/-- **A value that no write goes on in under a segment:** a boolean, a number, a string, or an
array that has no item at the index that the segment spells. -/
def Stops (segment : String) : Value → Prop
  | bool _ | num _ | str _ => True
  | arr items => ∀ i, indexOf? segment = some i → items.length ≤ i
  | null | obj _ => False

/-- **Nothing that is read on the way stops a write:** no beginning of the segments but the
whole of them leads to a value that stops at the next one. -/
def IsClear (v : Value) (p : List String) : Prop :=
  ∀ before segment after, p = before ++ segment :: after →
    ∀ w, v.follow? before = some w → ¬ w.Stops segment

theorem isClear_nil (v : Value) : v.IsClear [] :=
  fun _ _ _ h => absurd h (by simp)

/-- A way is clear if its first segment is and the rest of it is from there. -/
theorem isClear_cons :
    v.IsClear (a :: p) ↔ ¬ v.Stops a ∧ ∀ child ∈ v.child? a, child.IsClear p := by
  constructor
  · intro h
    refine ⟨h [] a p rfl v rfl, ?_⟩
    intro child hchild before segment after hp w hw
    refine h (a :: before) segment after (by rw [hp]; rfl) w ?_
    rw [follow?_cons, hchild, Option.bind_some, hw]
  · rintro ⟨hfirst, hrest⟩ before segment after hp w hw
    cases before with
    | nil =>
      obtain ⟨rfl, -⟩ := List.cons.inj hp
      cases hw
      exact hfirst
    | cons b before =>
      obtain ⟨rfl, hbelow⟩ := List.cons.inj hp
      rw [follow?_cons, Option.bind_eq_some_iff] at hw
      obtain ⟨child, hchild, hw⟩ := hw
      exact hrest child hchild before segment after hbelow w hw

theorem obstacle?_obj_nil (p : List String) : (obj []).obstacle? p = none := by
  induction p with
  | nil => rfl
  | cons a p ih => exact ih

/-- Below null the way is clear, since a write opens what it needs there. -/
theorem isClear_null (p : List String) : null.IsClear p := by
  cases p with
  | nil => exact isClear_nil null
  | cons a p => exact isClear_cons.2 ⟨id, fun _ h => nomatch h⟩

/-- Below the first segment a write goes on in what stands there, opened. -/
theorem obstacle?_cons_eq_none_iff :
    v.obstacle? (a :: p) = none ↔
      v ≠ null ∧ ¬ v.Stops a ∧ (opened (v.child? a)).obstacle? p = none := by
  cases v with
  | obj fields =>
    rw [obstacle?]
    refine ⟨fun h => ⟨?_, id, h⟩, fun h => h.2.2⟩
    rintro ⟨⟩
  | arr items =>
    rw [obstacle?, child?]
    cases hindex : indexOf? a with
    | none => simp [Stops, hindex]
    | some i =>
      cases hitem : items[i]? with
      | none =>
        have hlength := List.getElem?_eq_none_iff.1 hitem
        simp [Stops, hindex, hlength]
      | some item =>
        have hlength := (List.getElem?_eq_some_iff.1 hitem).1
        simp [Stops, hindex, hlength]
  | null => simp [obstacle?]
  | _ => simp [obstacle?, Stops]

/-- Below an opened place a write is stopped by what stood there, if anything did. -/
theorem obstacle?_opened_eq_none_iff (o : Option Value) (p : List String) :
    (opened o).obstacle? p = none ↔ ∀ child ∈ o, child.IsClear p := by
  induction p generalizing o with
  | nil =>
    rw [obstacle?]
    exact iff_of_true rfl fun child _ => isClear_nil child
  | cons a p ih =>
    have hnull : (opened (some null)).obstacle? (a :: p) = none ↔ null.IsClear (a :: p) :=
      iff_of_true (obstacle?_obj_nil (a :: p)) (isClear_null (a :: p))
    cases o with
    | none =>
      refine iff_of_true (obstacle?_obj_nil (a :: p)) fun child hchild => ?_
      cases hchild
    | some v =>
      simp only [Option.mem_some_iff, forall_eq']
      by_cases hv : v = null
      · rw [hv, hnull]
      · rw [opened_of_ne_null hv, obstacle?_cons_eq_none_iff, ih, isClear_cons]
        exact ⟨fun h => h.2, fun h => ⟨hv, h⟩⟩

/-- **A write gets nothing in its way** just if its way is clear and does not begin in null. -/
theorem obstacle?_eq_none_iff (hp : p ≠ []) :
    v.obstacle? p = none ↔ v ≠ null ∧ v.IsClear p := by
  obtain ⟨a, p, rfl⟩ := List.exists_cons_of_ne_nil hp
  rw [obstacle?_cons_eq_none_iff, obstacle?_opened_eq_none_iff, isClear_cons]

/-! ### What is written is read back -/

/-- **What is written is read back,** if nothing gets in the way. -/
theorem follow?_write_self (h : v.obstacle? p = none) :
    (v.write p x).1.follow? p = some x := by
  induction p generalizing v with
  | nil => rfl
  | cons a p ih =>
    obtain ⟨-, -, hrest⟩ := obstacle?_cons_eq_none_iff.1 h
    have hbelow : (written p x (v.child? a)).follow? p = some x := ih hrest
    cases v with
    | obj fields =>
      rw [write_obj, follow?_cons, child?, Fields.get?_insert, if_pos rfl]
      exact hbelow
    | arr items =>
      rw [write_arr, follow?_cons, child?]
      rw [child?] at hbelow
      cases hindex : indexOf? a with
      | none => simp [obstacle?, hindex] at h
      | some i =>
        cases hitem : items[i]? with
        | none => simp [obstacle?, hindex, hitem] at h
        | some item =>
          rw [hindex, Option.bind_some, hitem] at hbelow
          simp only [Option.elim_some, Option.bind_some, List.getElem?_modify, hitem, if_true]
          exact hbelow
    | _ => cases h

/-! ### Of two writes the later one counts -/

/-- A second write at the same place goes on where the first one did. -/
theorem opened_written_cases (p : List String) (x : Value) (o : Option Value) :
    p = [] ∨ opened (some (written p x o)) = ((opened o).write p x).1 := by
  rcases eq_or_ne p [] with hp | hp
  · exact Or.inl hp
  · exact Or.inr (opened_written hp x o)

/-- **A write does not get in the way of another one at the same place.** -/
theorem obstacle?_write_self (v : Value) (p : List String) (x : Value) :
    (v.write p x).1.obstacle? p = v.obstacle? p := by
  induction p generalizing v with
  | nil => rw [obstacle?, obstacle?]
  | cons a p ih =>
    have hbelow (o : Option Value) :
        (opened (some (written p x o))).obstacle? p = (opened o).obstacle? p := by
      rcases opened_written_cases p x o with rfl | hopened
      · rw [obstacle?, obstacle?]
      · rw [hopened, ih]
    cases v with
    | obj fields =>
      rw [write_obj, obstacle?, obstacle?, Fields.get?_insert, if_pos rfl, hbelow]
    | arr items =>
      rw [write_arr]
      cases hindex : indexOf? a with
      | none => rfl
      | some i =>
        simp only [obstacle?, hindex, Option.elim_some, Option.bind_some, List.length_modify,
          List.getElem?_modify, if_true]
        cases items[i]? with
        | none => rfl
        | some item => exact hbelow (some item)
    | _ => rfl

/-- **Of two writes at the same place the later one counts.** -/
theorem write_write (v : Value) (p : List String) (x y : Value) :
    ((v.write p x).1.write p y).1 = (v.write p y).1 := by
  induction p generalizing v with
  | nil => rw [write, write]
  | cons a p ih =>
    have hbelow (o : Option Value) : written p y (some (written p x o)) = written p y o := by
      rcases opened_written_cases p x o with rfl | hopened
      · rfl
      · rw [written, hopened, ih]
        rfl
    cases v with
    | obj fields =>
      rw [write_obj, write_obj, write_obj, Fields.get?_insert, if_pos rfl, Fields.insert_insert,
        hbelow]
    | arr items =>
      rw [write_arr, write_arr, write_arr]
      cases indexOf? a with
      | none => rfl
      | some i =>
        simp only [Option.elim_some, List.modify_modify_eq]
        congr 2
        funext item
        exact hbelow (some item)
    | _ => rfl

/-! ### Writing what is there -/

/-- **Writing what is there already changes nothing.** -/
theorem write_of_follow? (h : v.follow? p = some x) : (v.write p x).1 = v := by
  induction p generalizing v with
  | nil =>
    cases h
    rfl
  | cons a p ih =>
    rw [follow?_cons, Option.bind_eq_some_iff] at h
    obtain ⟨child, hchild, hrest⟩ := h
    -- a null that more segments lead through would not have been read through
    have hbelow : written p x (some child) = child := by
      cases p with
      | nil =>
        cases hrest
        rfl
      | cons b p =>
        have hne : child ≠ null := by
          rintro rfl
          cases hrest
        rw [written, opened_of_ne_null hne, ih hrest]
    cases v with
    | obj fields =>
      rw [child?] at hchild
      rw [write_obj, hchild, hbelow, Fields.insert_of_get? hchild]
    | arr items =>
      rw [child?, Option.bind_eq_some_iff] at hchild
      obtain ⟨i, hindex, hitem⟩ := hchild
      rw [write_arr, hindex, Option.elim_some, List.modify_eq_set, hitem, Option.getD_some, hbelow,
        set_of_getElem? hitem]
    | _ => cases hchild

/-! ### The lens -/

theorem write_eq_iff {d : Value} :
    v.write p x = (d, none) ↔ v.obstacle? p = none ∧ (v.write p x).1 = d := by
  rw [Prod.ext_iff, write_snd]
  exact and_comm

/-- **Reads and writes at one path form a lens.**  A write happens just if the value is not null
and nothing that is read on the way stops it; what it leaves then has what was written at the
path, and under the path what was under that.  A second write at the path happens and leaves
what it would have left without the first one.  A write of what is there leaves the value as it
was.

Objects that are missing on the way are made, and an array is never made longer: that is why a
write can fail where a read would only find nothing. -/
theorem write_lens (d : Value) (path : String) (v : Value) :
    ((d.write (segments path) v).2 = none ↔
      d ≠ null ∧ ∀ before segment after, segments path = before ++ segment :: after →
        ∀ w, d.follow? before = some w → ¬ w.Stops segment) ∧
    ∀ d', d.write (segments path) v = (d', none) →
      d'.resolve? path = some v ∧
      (∀ further, d'.resolve? (path ++ "." ++ further) = v.resolve? further) ∧
      (∀ w, ∃ d'', d'.write (segments path) w = (d'', none) ∧
        d.write (segments path) w = (d'', none)) ∧
      (d.resolve? path = some v → d' = d) := by
  constructor
  · rw [write_snd]
    exact obstacle?_eq_none_iff (segments_ne_nil path)
  · intro d' hwrite
    obtain ⟨hclear, rfl⟩ := write_eq_iff.1 hwrite
    have hread := follow?_write_self (x := v) hclear
    refine ⟨hread, ?_, ?_, write_of_follow?⟩
    · intro further
      rw [resolve?, segments_append, follow?_append, hread, Option.bind_some]
      rfl
    · intro w
      refine ⟨(d.write (segments path) w).1, ?_, ?_⟩
      · rw [write_eq_iff, obstacle?_write_self, write_write]
        exact ⟨hclear, rfl⟩
      · exact write_eq_iff.2 ⟨hclear, rfl⟩

/-- A number, and an array of an object and a null. -/
def twoItems : Value :=
  obj [("count", int 2), ("lines", arr [obj [("sku", str "A")], null])]

/-- A note is written into the second item, which is null; into the number none can be
written. -/
theorem write_lens_note :
    (∃ d', twoItems.write (segments "lines.+1.note") (obj [("by", str "ann")]) = (d', none) ∧
      d'.resolve? "lines.+1.note.by" = (obj [("by", str "ann")]).resolve? "by" ∧
      ∃ d'', d'.write (segments "lines.+1.note") null = (d'', none) ∧
        twoItems.write (segments "lines.+1.note") null = (d'', none)) ∧
    (twoItems.write (segments "count.of") null).2 ≠ none := by
  have hnote : segments "lines.+1.note" = ["lines", "+1", "note"] := by decide +kernel
  have hcount : segments "count.of" = ["count", "of"] := by decide +kernel
  have hwrite : twoItems.write (segments "lines.+1.note") (obj [("by", str "ann")]) =
      (obj [("count", int 2),
        ("lines", arr [obj [("sku", str "A")], obj [("note", obj [("by", str "ann")])]])],
        none) := by
    rw [hnote]
    rfl
  constructor
  · obtain ⟨-, hbelow, htwice, -⟩ := (write_lens twoItems "lines.+1.note" _).2 _ hwrite
    exact ⟨_, hwrite, hbelow "by", htwice null⟩
  · intro hnone
    have hclear := ((write_lens twoItems "count.of" null).1.1 hnone).2
    exact hclear ["count"] "of" [] hcount (int 2) rfl trivial

end Value

end RecordFlow
