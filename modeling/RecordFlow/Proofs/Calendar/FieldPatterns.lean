import RecordFlow.Proofs.Calendar.Fields
import RecordFlow.Proofs.Calendar.PatternItems

/-!
# Patterns of separated fields

A pattern that is a row of fields with separators between them is read into the items that one
expects (`FieldPattern.patternItems_pattern`), and what is written by it is read back: the sheet
holds the fields of the pattern, whatever their order (`FieldPattern.readItems?_text`).

The separators see to that.  In a pattern they end the run of letters of a token, and in a text
they stand between digits, so that no number takes what belongs to the next.  One of them is a
blank, for which a reader skips all white space there is; but digits follow it.

## Main definitions

* `Field.token` — the letters that stand for a field in a pattern.
* `separators` — the characters that stand between two fields.
* `FieldPattern` — a row of fields with separators, with its `pattern`, `items` and `text`.
-/

namespace RecordFlow.Calendar

open Text

variable {m : Moment} {c : Char} {s : List Char} {known : List Field}
variable {others : List (Char × Field)}

/-! ### Tokens and separators -/

/-- The letter that names a field. -/
def Field.letter : Field → Char
  | year => 'y'
  | month => 'M'
  | day => 'd'
  | hour => 'H'
  | minute => 'm'
  | second => 's'
  | millisecond => 'S'

/-- **The token of a field:** its letter, once for each of its digits. -/
def Field.token (f : Field) : List Char :=
  List.replicate f.width f.letter

/-- **The characters that stand between two fields.**  None of them names a field or goes on
with a number, so that a field ends where one of them stands, in a pattern and in a text. -/
def separators : List Char :=
  ['-', '/', '.', ':', ',', ' ']

/-- A token is read as the part of its field, if no letter follows. -/
theorem Field.itemsFrom_token (f : Field) (hs : ∀ d ∈ s.head?, isAsciiLetter d = false) :
    itemsFrom false (f.token ++ s) = .part f.part :: itemsFrom false s := by
  obtain ⟨n, hwidth⟩ : ∃ n, f.width = n + 1 := by cases f <;> exact ⟨_, rfl⟩
  have hletter : isAsciiLetter f.letter = true := by cases f <;> decide
  have hquote : f.letter ≠ quoteMark := by cases f <;> decide
  have hrun : ¬ (false = true ∨ isAsciiLetter f.letter = false) := by simp [hletter]
  have hpart : partOfRun? f.letter (n + 1) = some f.part := by
    rw [← hwidth]
    cases f <;> decide
  have hspan :
      (List.replicate n f.letter ++ s).takeWhile (· == f.letter) = List.replicate n f.letter ∧
        (List.replicate n f.letter ++ s).dropWhile (· == f.letter) = s := by
    refine span_append (fun d hd => beq_iff_eq.2 (List.eq_of_mem_replicate hd)) fun d hd => ?_
    refine beq_eq_false_iff_ne.2 fun heq => ?_
    rw [← heq, hs d hd] at hletter
    cases hletter
  rw [token, hwidth, List.replicate_succ, List.cons_append, itemsFrom_letter hquote hrun, hspan.1,
    hspan.2, List.length_replicate, itemsOfRun, hpart]
  rfl

/-- No separator is a quote or a letter. -/
theorem ne_quoteMark_of_mem_separators (hc : c ∈ separators) :
    c ≠ quoteMark ∧ isAsciiLetter c = false := by
  have hall : separators.all (fun d => d != quoteMark && !isAsciiLetter d) = true := by decide
  have hplain := List.all_eq_true.1 hall c hc
  rw [Bool.and_eq_true, bne_iff_ne, Bool.not_eq_true'] at hplain
  exact hplain

/-- A separator stands for itself. -/
theorem itemsFrom_separator (hc : c ∈ separators) :
    itemsFrom false (c :: s) = .char c :: itemsFrom false s := by
  obtain ⟨hquote, hletter⟩ := ne_quoteMark_of_mem_separators hc
  exact itemsFrom_cons hquote (Or.inr hletter) s

/-! ### Rows of fields -/

/-- **A row of fields with separators between them.**  Which fields there are, and in which
order, is left open: a date is read from its fields in any order, as long as they settle it. -/
structure FieldPattern where
  /-- The first field. -/
  first : Field
  /-- The other fields, each with what stands before it. -/
  others : List (Char × Field)
  /-- Only separators stand between fields. -/
  separated : ∀ p ∈ others, p.1 ∈ separators

namespace FieldPattern

/-- The fields of a row. -/
def fields (p : FieldPattern) : List Field :=
  p.first :: p.others.map Prod.snd

/-- The text of a row in which every field has a spelling. -/
def spell (p : FieldPattern) (spelling : Field → List Char) : List Char :=
  spelling p.first ++ p.others.flatMap fun other => other.1 :: spelling other.2

/-- **The pattern that is written for a row.** -/
def pattern (p : FieldPattern) : List Char :=
  p.spell Field.token

/-- **What is written of a moment by a row.** -/
def text (p : FieldPattern) (m : Moment) : List Char :=
  p.spell fun f => f.part.render m

/-- **The items of a row.**  The pattern of the row has these items, and texts are written and
read by items; so what is read from what was written can be told item by item. -/
def items (p : FieldPattern) : List Item :=
  .part p.first.part :: p.others.flatMap fun other => [.char other.1, .part other.2.part]

end FieldPattern

/-! ### The items of a pattern -/

/-- After a field there is a separator or nothing. -/
theorem mem_separators_of_mem_head? {spelling : Field → List Char}
    (h : ∀ p ∈ others, p.1 ∈ separators) :
    ∀ d ∈ (others.flatMap fun other => other.1 :: spelling other.2).head?, d ∈ separators := by
  cases others with
  | nil => exact fun d hd => nomatch hd
  | cons other others =>
    intro d hd
    rw [List.flatMap_cons, List.cons_append, List.head?_cons] at hd
    rw [← Option.some.inj hd]
    exact h other List.mem_cons_self

/-- The tokens after the first are read as their items. -/
theorem itemsFrom_others (h : ∀ p ∈ others, p.1 ∈ separators) :
    itemsFrom false (others.flatMap fun other => other.1 :: other.2.token) =
      others.flatMap fun other => [.char other.1, .part other.2.part] := by
  induction others with
  | nil => rw [List.flatMap_nil, itemsFrom_nil, List.flatMap_nil]
  | cons other others ih =>
    have hothers : ∀ p ∈ others, p.1 ∈ separators := fun p hp => h p (List.mem_cons_of_mem _ hp)
    rw [List.flatMap_cons, List.cons_append, itemsFrom_separator (h other List.mem_cons_self),
      other.2.itemsFrom_token, ih hothers, List.flatMap_cons]
    · rfl
    · exact fun d hd =>
        (ne_quoteMark_of_mem_separators (mem_separators_of_mem_head? hothers d hd)).2

namespace FieldPattern

/-- **A row of tokens is read as the row of their items.** -/
theorem patternItems_pattern (p : FieldPattern) : patternItems p.pattern = p.items := by
  rw [patternItems, pattern, spell, p.first.itemsFrom_token, itemsFrom_others p.separated, items]
  exact fun d hd =>
    (ne_quoteMark_of_mem_separators (mem_separators_of_mem_head? p.separated d hd)).2

/-- What is written by the items of a row is its text. -/
theorem render_items (p : FieldPattern) (t : Instant) : render p.items t = p.text t.moment := by
  simp only [render, items, text, spell, List.flatMap_cons, List.flatMap_nil, List.flatMap_assoc,
    Item.render, List.singleton_append, List.append_nil]

end FieldPattern

/-! ### What is written is read back -/

/-- A character is read where it was written, if no white space follows. -/
theorem Item.read?_char {sheet : Sheet} (hs : trimStart s = s) :
    (Item.char c).read? sheet (c :: s) = some (sheet, s) := by
  rw [Item.read?]
  split
  · next hblank => rw [trimStart, List.dropWhile_cons_of_pos hblank, ← trimStart, hs]
  · rw [skipChar?_cons, Option.map_some]

/-- **The fields after the first are read back,** one after the other. -/
theorem readAll?_others (hm : m.IsProper) :
    readAll? (Sheet.of m known) (others.flatMap fun other => other.1 :: other.2.part.render m)
        (others.flatMap fun other => [.char other.1, .part other.2.part]) =
      some (Sheet.of m ((others.map Prod.snd).reverse ++ known), []) := by
  induction others generalizing known with
  | nil => rfl
  | cons other others ih =>
    have hchar (s : List Char) : (Item.char other.1).read? (Sheet.of m known)
        (other.1 :: (other.2.part.render m ++ s)) =
          some (Sheet.of m known, other.2.part.render m ++ s) := by
      refine Item.read?_char ?_
      rw [other.2.render_eq hm, trimStart_padded]
    have hpart (s : List Char) : (Item.part other.2.part).read? (Sheet.of m known)
        (other.2.part.render m ++ s) = some (Sheet.of m (other.2 :: known), s) :=
      Field.read?_render hm other.2
    simp only [List.flatMap_cons, List.cons_append, List.nil_append, readAll?, hchar, hpart,
      Option.bind_some, ih, List.map_cons, List.reverse_cons, List.append_assoc]

namespace FieldPattern

/-- **What is written by a row is read back by it:** the sheet holds the fields of the row. -/
theorem readItems?_text (p : FieldPattern) (hm : m.IsProper) :
    readItems? p.items (p.text m) = some (Sheet.of m p.fields) := by
  have hfirst (s : List Char) : (Item.part p.first.part).read? {} (p.first.part.render m ++ s) =
      some (Sheet.of m [p.first], s) := @Field.read?_render m [] s hm p.first
  have hread : readAll? {} (p.text m) p.items =
      some (Sheet.of m ((p.others.map Prod.snd).reverse ++ [p.first]), []) := by
    rw [text, spell, items, readAll?, hfirst, Option.bind_some]
    exact readAll?_others hm
  have hfields :
      Sheet.of m ((p.others.map Prod.snd).reverse ++ [p.first]) = Sheet.of m p.fields := by
    refine Sheet.of_congr fun f => ?_
    rw [← List.reverse_cons, List.mem_reverse, fields]
  rw [readItems?, hread, hfields]

/-- The text of a row ends in a field. -/
theorem exists_text_eq_append (p : FieldPattern) (m : Moment) :
    ∃ (before : List Char) (f : Field), p.text m = before ++ f.part.render m := by
  rw [text, spell]
  rcases List.eq_nil_or_concat p.others with hnil | ⟨others, last, hlast⟩
  · refine ⟨[], p.first, ?_⟩
    rw [hnil, List.flatMap_nil, List.append_nil, List.nil_append]
  · refine ⟨p.first.part.render m ++
      (others.flatMap (fun other => other.1 :: other.2.part.render m) ++ [last.1]), last.2, ?_⟩
    rw [hlast, List.concat_eq_append, List.flatMap_append, List.flatMap_cons, List.flatMap_nil,
      List.append_nil, List.append_assoc, List.append_assoc, List.singleton_append]

/-- There is no white space around the text of a row. -/
theorem trim_text (p : FieldPattern) (hm : m.IsProper) : trim (p.text m) = p.text m := by
  have hblank {c : Char} (hc : isAsciiDigit c = true) : isBlank c = false :=
    isBlank_of_isDecimalDigit (isDecimalDigit_of_isAsciiDigit hc)
  obtain ⟨c, digits, hcons, hc⟩ := exists_padded_eq_cons p.first.width (p.first.value m)
  have hhead : (p.text m).head? = some c := by
    rw [text, spell, p.first.render_eq hm, hcons]
    rfl
  obtain ⟨before, f, hend⟩ := p.exists_text_eq_append m
  have hne : padded f.width (f.value m) ≠ [] := padded_ne_nil _ _
  have hlast : (p.text m).getLast? = some ((padded f.width (f.value m)).getLast hne) := by
    rw [hend, f.render_eq hm, List.getLast?_append, List.getLast?_eq_some_getLast hne,
      Option.some_or]
  exact trim_eq_self hhead (hblank hc) hlast
    (hblank (isAsciiDigit_of_mem_padded (List.getLast_mem hne)))

end FieldPattern

/-! ### What is read is what the fields tell -/

/-- **The fields of a date,** and the first `k` of those of the time of day. -/
def Field.upTo (k : Nat) : List Field :=
  [.year, .month, .day] ++ [.hour, .minute, .second, .millisecond].take k

/-- A time of day has four fields. -/
theorem Field.upTo_add_four (k : Nat) : Field.upTo (k + 4) = Field.upTo 4 := by
  simp only [Field.upTo, List.take_succ_cons, List.take_nil]

/-- The milliseconds of the finest field of a date with the first `k` fields of the time of
day. -/
def finestUnit : Nat → Int
  | 0 => 86400000
  | 1 => 3600000
  | 2 => 60000
  | 3 => 1000
  | _ => 1

theorem finestUnit_add_four (k : Nat) : finestUnit (k + 4) = 1 := rfl

/-- A date stays in the years of four digits if it is cut to a unit. -/
theorem Instant.HasPlainYear.floor {n : Int} (h : (atMillis n).HasPlainYear) (k : Nat) :
    (atMillis (n / finestUnit k * finestUnit k)).HasPlainYear := by
  rw [hasPlainYear_atMillis_iff] at h ⊢
  rcases k with _ | _ | _ | _ | k <;> simp only [finestUnit] <;> omega

/-- Midnight is what is left of a number of milliseconds without the time of day. -/
theorem Instant.toInstant_midnight (n : Int) :
    (Moment.mk (atMillis n).moment.date 0 0 0 0).toInstant 0 =
      atMillis (n / finestUnit 0 * finestUnit 0) := by
  have hdate : (atMillis n).moment.date = .ofDays (n / 1000 / 86400) := rfl
  rw [hdate, Moment.toInstant_ofDays, atMillis, finestUnit, Instant.mk.injEq]
  omega

/-- **With the minute in sight,** a moment is what is left of a number of milliseconds below the
finest of its fields. -/
theorem Instant.toInstant_upTo (n : Int) {k : Nat} (hk : 2 ≤ k) :
    ((atMillis n).moment.upTo (Field.upTo k)).toInstant 0 =
      atMillis (n / finestUnit k * finestUnit k) := by
  have hseconds := (atMillis n).seconds_eq
  have hsecond : (atMillis n).moment.second = (n / 1000 % 60).toNat := by
    have hmod := (atMillis n).second_moment
    rw [seconds_atMillis] at hmod
    omega
  have hnanos : (atMillis n).moment.nanos = (n % 1000 * 1000000).toNat := rfl
  rw [seconds_atMillis, hsecond] at hseconds
  have hmoment (second nanos : Nat) :
      (Moment.mk (atMillis n).moment.date (atMillis n).moment.hour (atMillis n).moment.minute second
        nanos).toInstant 0 = ⟨n / 1000 - (n / 1000) % 60 + second, nanos⟩ := by
    have hdate : (atMillis n).moment.date = .ofDays (atMillis n).days := rfl
    rw [hdate, Moment.toInstant_ofDays, Instant.mk.injEq]
    omega
  match k, hk with
  | 2, _ =>
    rw [Moment.upTo, if_neg (by decide), if_neg (by decide), if_neg (by decide), hmoment, atMillis,
      finestUnit, Instant.mk.injEq]
    omega
  | 3, _ =>
    rw [Moment.upTo, if_pos (by decide), if_neg (by decide), if_pos (by decide), hmoment, hsecond,
      hnanos, atMillis, finestUnit, nanosPerSecond, Instant.mk.injEq]
    omega
  | k + 4, _ =>
    rw [Moment.upTo, Field.upTo_add_four, if_pos (by decide), if_pos (by decide), hmoment, hsecond,
      hnanos, atMillis, finestUnit_add_four, Instant.mk.injEq]
    omega

variable {n : Int} {k : Nat}

namespace Sheet

theorem date?_upTo (hm : m.IsProper) : (Sheet.of m (Field.upTo k)).date? = some m.date :=
  Sheet.date?_of hm (by simp [Field.upTo]) (by simp [Field.upTo]) (by simp [Field.upTo])

/-- With an hour and a minute there is a moment. -/
theorem moment?_upTo (hm : m.IsProper) (hk : 2 ≤ k) :
    (Sheet.of m (Field.upTo k)).moment? = some (m.upTo (Field.upTo k)) := by
  have hdate := Sheet.date?_upTo (k := k) hm
  match k, hk with
  | 2, _ => exact Sheet.moment?_of hm hdate (by decide) (by decide) (by decide)
  | 3, _ => exact Sheet.moment?_of hm hdate (by decide) (by decide) (by decide)
  | k + 4, _ =>
    rw [Field.upTo_add_four] at hdate ⊢
    exact Sheet.moment?_of hm hdate (by decide) (by decide) (by decide)

/-- With an hour at most there is none. -/
theorem moment?_upTo_of_lt (hk : k < 2) : (Sheet.of m (Field.upTo k)).moment? = none := by
  refine Sheet.moment?_of_notMem ?_
  match k, hk with
  | 0, _ => decide
  | 1, _ => decide

end Sheet

namespace FieldPattern

/-- **What is read by a row** is the moment in universal time, if there is one, and midnight if
not. -/
theorem readByItems?_text (p : FieldPattern) (hm : m.IsProper)
    (hfields : p.fields.Perm (Field.upTo k)) :
    readByItems? p.items (p.text m) =
      ((Sheet.of m (Field.upTo k)).moment?.map (·.toInstant 0)).or
        (some ((Moment.mk m.date 0 0 0 0).toInstant 0)) := by
  have hsheet : readItems? p.items (p.text m) = some (Sheet.of m (Field.upTo k)) := by
    rw [p.readItems?_text hm, Sheet.of_congr fun f => hfields.mem_iff]
  have hoffset : (Sheet.of m (Field.upTo k)).instant? = none := rfl
  rw [readByItems?, hsheet, Option.bind_some, hoffset, Option.none_or, Sheet.midnight?,
    Sheet.date?_upTo hm, Option.map_some]

/-- **A row with an hour and a minute is read as what its fields tell.** -/
theorem readByItems?_text_of_le (p : FieldPattern) (hyear : (Instant.atMillis n).HasPlainYear)
    (hfields : p.fields.Perm (Field.upTo k)) (hk : 2 ≤ k) :
    readByItems? p.items (p.text (Instant.atMillis n).moment) =
      some (.atMillis (n / finestUnit k * finestUnit k)) := by
  have hm := (Instant.isRegular_atMillis n).isProper hyear
  rw [p.readByItems?_text hm hfields, Sheet.moment?_upTo hm hk, Option.map_some, Option.some_or,
    Instant.toInstant_upTo n hk]

/-- **A row without a minute is read as midnight,** even if it has an hour. -/
theorem readByItems?_text_of_lt (p : FieldPattern) (hyear : (Instant.atMillis n).HasPlainYear)
    (hfields : p.fields.Perm (Field.upTo k)) (hk : k < 2) :
    readByItems? p.items (p.text (Instant.atMillis n).moment) =
      some (.atMillis (n / finestUnit 0 * finestUnit 0)) := by
  have hm := (Instant.isRegular_atMillis n).isProper hyear
  rw [p.readByItems?_text hm hfields, Sheet.moment?_upTo_of_lt hk, Option.map_none, Option.none_or,
    Instant.toInstant_midnight]

end FieldPattern

end RecordFlow.Calendar
