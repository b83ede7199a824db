import Mathlib.Data.List.Infix
import RecordFlow.Calendar.Rendering
import RecordFlow.Proofs.Text.Scanning

/-!
# The items of a pattern

Every text is a pattern.  Its items are characters, and parts out of a list (`listedParts`), and
the text of its items is a format, from which they are read again (`readFormat?_eq_some_iff`).
For this no directive may begin like another one, or like a percent sign that stands for itself
(`eq_of_begins`); that is why this sign is written twice.

A percent sign of the pattern is such a sign, whatever stands around it and whether it is quoted
or not (`patternItems_percent`).  So a format has no other directives than those of the letters
of its pattern, and whoever can write the listed ones can write it
(`IsFormatter.write_directives`).

A text is written as it is by the pattern that has it in quotes (`patternItems_quotedPattern`),
if it is more than a row of quotes.  For such a row this fails, because two quotes outside
quotes stand for one and open nothing.

## Main definitions

* `listedParts`, `Item.IsListed` — the parts that patterns name, and the items that they have.
* `readFormat?` — the items of a format, read from left to right.
* `IsFormatter` — a function that writes an instant by formats with listed directives.
* `quotedPattern` — a text in quotes.
-/

namespace RecordFlow.Calendar

open Text

variable {c : Char} {item : Item} {items : List Item} {letter : Char} {n : Nat} {p : Part}
variable {quoted : Bool} {rest s : List Char} {t : Instant}
variable {write : List Char → Option (List Char)}

/-! ### Steps of the reader -/

/-- The items that a run of a letter stands for. -/
def itemsOfRun (letter : Char) (length : Nat) : List Item :=
  match partOfRun? letter length with
  | some p => [.part p]
  | none => List.replicate length (.char letter)

@[simp] theorem itemsFrom_nil (quoted : Bool) : itemsFrom quoted [] = [] := by
  rw [itemsFrom]

/-- A quote at the end is dropped. -/
@[simp] theorem itemsFrom_quote_nil (quoted : Bool) : itemsFrom quoted [quoteMark] = [] := by
  rw [itemsFrom, if_pos rfl]

/-- Two quotes stand for one, inside quotes and outside. -/
@[simp] theorem itemsFrom_quote_quote (quoted : Bool) (s : List Char) :
    itemsFrom quoted (quoteMark :: quoteMark :: s) = .char quoteMark :: itemsFrom quoted s := by
  rw [itemsFrom, if_pos rfl]
  simp only [if_true]

/-- Any other quote opens or closes. -/
theorem itemsFrom_quote_cons (quoted : Bool) (hc : c ≠ quoteMark) (s : List Char) :
    itemsFrom quoted (quoteMark :: c :: s) = itemsFrom (!quoted) (c :: s) := by
  rw [itemsFrom, if_pos rfl]
  simp only [if_neg hc]

/-- What is no quote stands for itself, inside quotes or if it is no letter. -/
theorem itemsFrom_cons (hc : c ≠ quoteMark) (h : quoted = true ∨ isAsciiLetter c = false)
    (s : List Char) : itemsFrom quoted (c :: s) = .char c :: itemsFrom quoted s := by
  rw [itemsFrom.eq_def]
  simp only [if_neg hc, if_pos h]

/-- Outside quotes a letter is taken with all that repeat it. -/
theorem itemsFrom_letter (hc : c ≠ quoteMark) (h : ¬ (quoted = true ∨ isAsciiLetter c = false))
    (s : List Char) :
    itemsFrom quoted (c :: s) =
      itemsOfRun c ((s.takeWhile (· == c)).length + 1) ++
        itemsFrom false (s.dropWhile (· == c)) := by
  rw [itemsFrom.eq_def]
  simp only [if_neg hc, if_neg h]
  rfl

/-- **A character that has no meaning in patterns stands for itself,** and ends what stands
before it. -/
theorem itemsFrom_append_cons (hc : c ≠ quoteMark) (hletter : isAsciiLetter c = false)
    (quoted : Bool) (a b : List Char) :
    ∃ after, itemsFrom quoted (a ++ c :: b) =
      itemsFrom quoted a ++ .char c :: itemsFrom after b := by
  fun_induction itemsFrom quoted a with
  | case1 quoted => exact ⟨quoted, itemsFrom_cons hc (Or.inr hletter) b⟩
  | case2 quoted =>
    refine ⟨!quoted, ?_⟩
    rw [List.singleton_append, itemsFrom_quote_cons quoted hc, itemsFrom_cons hc (Or.inr hletter)]
    rfl
  | case3 quoted a ih =>
    obtain ⟨after, ih⟩ := ih
    refine ⟨after, ?_⟩
    rw [List.cons_append, List.cons_append, itemsFrom_quote_quote, ih, List.cons_append]
  | case4 quoted d a hd ih =>
    obtain ⟨after, ih⟩ := ih
    refine ⟨after, ?_⟩
    rw [List.cons_append, List.cons_append, itemsFrom_quote_cons quoted hd, ← List.cons_append, ih]
  | case5 quoted d a hd hplain ih =>
    obtain ⟨after, ih⟩ := ih
    refine ⟨after, ?_⟩
    rw [List.cons_append, itemsFrom_cons hd hplain, ih, List.cons_append]
  | case6 quoted d a hd hrun length ih =>
    obtain ⟨after, ih⟩ := ih
    refine ⟨after, ?_⟩
    -- the run of the letter ends before the character
    have hne : (c == d) = false := by
      refine beq_eq_false_iff_ne.2 ?_
      rintro rfl
      exact hrun (Or.inr hletter)
    obtain ⟨htake, hdrop⟩ := span_append_cons (p := (· == d)) hne a b
    rw [List.cons_append, itemsFrom_letter hd hrun, htake, hdrop, ih, ← List.append_assoc]
    rfl

/-- A percent sign is read as one. -/
theorem patternItems_percent (a b : List Char) :
    ∃ quoted, patternItems (a ++ '%' :: b) =
      patternItems a ++ .char '%' :: itemsFrom quoted b :=
  itemsFrom_append_cons (by decide) (by decide) false a b

/-! ### The parts that patterns name -/

/-- **The parts that a pattern can name.**  The only other part is a fraction of a second with
its point, which readers look for and no pattern asks for. -/
def listedParts : List Part :=
  [.yearOfCentury, .year, .month false, .month true, .monthName false, .monthName true,
    .day false, .day true, .hour false, .hour true, .hourOfHalf false, .hourOfHalf true,
    .minute false, .minute true, .second false, .second true, .millisecond, .halfDay,
    .weekdayName true, .weekdayName false, .offset]

theorem mem_listedParts_iff : p ∈ listedParts ↔ p ≠ .fraction := by
  cases p with
  | month b | monthName b | day b | hour b | hourOfHalf b | minute b | second b | weekdayName b =>
    cases b <;> decide
  | _ => decide

/-- **An item that patterns have:** a character, or a part that they can name.  Only such items
need to be found again in the text of a format. -/
def Item.IsListed : Item → Prop
  | part p => p ∈ listedParts
  | char _ => True

theorem Item.isListed_char (c : Char) : (Item.char c).IsListed :=
  trivial

theorem mem_listedParts_of_partOfRun? (h : partOfRun? letter n = some p) : p ∈ listedParts := by
  rw [mem_listedParts_iff]
  rintro rfl
  unfold partOfRun? at h
  split at h <;> grind

/-- A run of a letter has listed items. -/
theorem isListed_of_mem_itemsOfRun (h : item ∈ itemsOfRun letter n) : item.IsListed := by
  rw [itemsOfRun] at h
  cases hpart : partOfRun? letter n with
  | some p =>
    rw [hpart, List.mem_singleton] at h
    rw [h]
    exact mem_listedParts_of_partOfRun? hpart
  | none =>
    rw [hpart] at h
    rw [List.eq_of_mem_replicate h]
    exact Item.isListed_char letter

/-- **A pattern has listed items.** -/
theorem isListed_of_mem_itemsFrom (h : item ∈ itemsFrom quoted s) : item.IsListed := by
  fun_induction itemsFrom quoted s with
  | case1 | case2 => cases h
  | case3 quoted s ih =>
    rcases List.mem_cons.1 h with rfl | h
    · exact Item.isListed_char quoteMark
    · exact ih h
  | case4 quoted d s hd ih => exact ih h
  | case5 quoted d s hd hplain ih =>
    rcases List.mem_cons.1 h with rfl | h
    · exact Item.isListed_char d
    · exact ih h
  | case6 quoted d s hd hrun length ih =>
    rcases List.mem_append.1 h with h | h
    · exact isListed_of_mem_itemsOfRun h
    · exact ih h

/-! ### Formats -/

/-- The items whose text begins with a percent sign: the sign itself, and the listed parts. -/
def escapedItems : List Item :=
  .char '%' :: listedParts.map .part

/-- **No text of these begins another one.** -/
theorem eq_of_begins : ∀ i ∈ escapedItems, ∀ j ∈ escapedItems,
    i.directive <+: j.directive → i = j := by
  decide

theorem head_directive : ∀ i ∈ escapedItems, i.directive = '%' :: i.directive.tail := by
  decide

/-- A listed item is one of these, or a character that is written as it is. -/
theorem Item.IsListed.cases (h : item.IsListed) :
    item ∈ escapedItems ∨ ∃ c, c ≠ '%' ∧ item = .char c := by
  cases item with
  | part p => exact Or.inl (List.mem_cons_of_mem _ (List.mem_map_of_mem h))
  | char c =>
    by_cases hc : c = '%'
    · rw [hc]
      exact Or.inl List.mem_cons_self
    · exact Or.inr ⟨c, hc, rfl⟩

theorem Item.IsListed.directive_ne_nil (h : item.IsListed) : item.directive ≠ [] := by
  rcases h.cases with hmem | ⟨c, hc, rfl⟩
  · rw [head_directive item hmem]
    exact List.cons_ne_nil _ _
  · rw [Item.directive, if_neg hc]
    exact List.cons_ne_nil _ _

theorem isListed_of_mem_escapedItems (h : item ∈ escapedItems) : item.IsListed := by
  rcases List.mem_cons.1 h with rfl | h
  · exact Item.isListed_char '%'
  · obtain ⟨p, hp, rfl⟩ := List.mem_map.1 h
    exact hp

/-- The one of them that a text begins with, and what follows it. -/
def dropEscaped? (s : List Char) : Option (Item × List Char) :=
  escapedItems.findSome? fun item => (dropPrefix? item.directive s).map (item, ·)

theorem exists_of_dropEscaped? (h : dropEscaped? s = some (item, rest)) :
    item ∈ escapedItems ∧ s = item.directive ++ rest := by
  obtain ⟨found, hfound, h⟩ := List.exists_of_findSome?_eq_some h
  obtain ⟨r, hr, h⟩ := Option.map_eq_some_iff.1 h
  cases h
  exact ⟨hfound, dropPrefix?_eq_some_iff.1 hr⟩

/-- It is found where it stands. -/
theorem dropEscaped?_append (h : item ∈ escapedItems) (rest : List Char) :
    dropEscaped? (item.directive ++ rest) = some (item, rest) := by
  have hsome : (dropEscaped? (item.directive ++ rest)).isSome = true := by
    rw [dropEscaped?, List.findSome?_isSome_iff]
    exact ⟨item, h, by rw [dropPrefix?_append]; rfl⟩
  obtain ⟨⟨found, r⟩, hfound⟩ := Option.isSome_iff_exists.1 hsome
  obtain ⟨hmem, heq⟩ := exists_of_dropEscaped? hfound
  -- what is found begins the same text, so that one of the two begins the other
  have hprefix : item.directive <+: found.directive ++ r := ⟨rest, heq⟩
  obtain rfl : item = found := by
    rcases List.prefix_or_prefix_of_prefix hprefix (List.prefix_append found.directive r) with
      hle | hge
    · exact eq_of_begins item h found hmem hle
    · exact (eq_of_begins found hmem item h hge).symm
  rw [hfound, List.append_cancel_left heq]

/-- The first item of a format, and what follows its text. -/
def readItem? : List Char → Option (Item × List Char)
  | [] => none
  | c :: s => if c = '%' then dropEscaped? (c :: s) else some (.char c, s)

/-- **The text of a listed item is read as this item,** whatever follows it. -/
theorem readItem?_eq_some_iff :
    readItem? s = some (item, rest) ↔ item.IsListed ∧ s = item.directive ++ rest := by
  constructor
  · intro h
    cases s with
    | nil => cases h
    | cons c s =>
      by_cases hc : c = '%'
      · rw [readItem?, if_pos hc] at h
        obtain ⟨hmem, heq⟩ := exists_of_dropEscaped? h
        exact ⟨isListed_of_mem_escapedItems hmem, heq⟩
      · rw [readItem?, if_neg hc] at h
        cases h
        rw [Item.directive, if_neg hc]
        exact ⟨Item.isListed_char c, rfl⟩
  · rintro ⟨hlisted, rfl⟩
    rcases hlisted.cases with hmem | ⟨c, hc, rfl⟩
    · have hhead : item.directive = '%' :: item.directive.tail := head_directive item hmem
      rw [← dropEscaped?_append hmem rest, hhead, List.cons_append, readItem?, if_pos rfl]
    · rw [Item.directive, if_neg hc, List.singleton_append, readItem?, if_neg hc]

/-- An item takes something of the text. -/
theorem length_of_readItem? (h : readItem? s = some (item, rest)) : rest.length < s.length := by
  obtain ⟨hlisted, rfl⟩ := readItem?_eq_some_iff.1 h
  have hpos := List.length_pos_iff.2 hlisted.directive_ne_nil
  rw [List.length_append]
  omega

/-- **The items of a format,** read from left to right.  A percent sign always begins a
directive or a sign that is written twice, so that no item is read where another one was
meant. -/
def readFormat? (s : List Char) : Option (List Item) :=
  match s with
  | [] => some []
  | c :: s =>
    match _found : readItem? (c :: s) with
    | some (item, rest) => (readFormat? rest).map (item :: ·)
    | none => none
termination_by s.length
decreasing_by exact length_of_readItem? _found

theorem readFormat?_of_readItem? (h : readItem? s = some (item, rest)) :
    readFormat? s = (readFormat? rest).map (item :: ·) := by
  cases s with
  | nil => cases h
  | cons c s =>
    rw [readFormat?]
    split
    · next found =>
      rw [h] at found
      cases found
      rfl
    · next found =>
      rw [h] at found
      cases found

theorem readFormat?_append (h : item.IsListed) (s : List Char) :
    readFormat? (item.directive ++ s) = (readFormat? s).map (item :: ·) :=
  readFormat?_of_readItem? (readItem?_eq_some_iff.2 ⟨h, rfl⟩)

/-- **What a format is read as are the only listed items that have it as their text.** -/
theorem readFormat?_eq_some_iff :
    readFormat? s = some items ↔ (∀ item ∈ items, item.IsListed) ∧ s = directives items := by
  constructor
  · intro h
    fun_induction readFormat? s generalizing items with
    | case1 =>
      cases h
      exact ⟨fun item hitem => (List.not_mem_nil hitem).elim, rfl⟩
    | case2 c s item rest found ih =>
      obtain ⟨others, hothers, rfl⟩ := Option.map_eq_some_iff.1 h
      obtain ⟨hlisted, hrest⟩ := ih hothers
      obtain ⟨hitem, heq⟩ := readItem?_eq_some_iff.1 found
      refine ⟨List.forall_mem_cons.2 ⟨hitem, hlisted⟩, ?_⟩
      rw [heq, hrest, directives, directives, List.flatMap_cons]
    | case3 c s found => cases h
  · rintro ⟨hlisted, rfl⟩
    induction items with
    | nil => rw [directives, List.flatMap_nil, readFormat?]
    | cons item items ih =>
      obtain ⟨hitem, hitems⟩ := List.forall_mem_cons.1 hlisted
      rw [directives, List.flatMap_cons, ← directives, readFormat?_append hitem, ih hitems]
      rfl

/-! ### Writing -/

/-- **A function that writes an instant by formats.**  It need not know other directives than
the listed ones. -/
structure IsFormatter (write : List Char → Option (List Char)) (t : Instant) : Prop where
  /-- Nothing is written by the empty format. -/
  nil : write [] = some []
  /-- A listed item is written, and then what follows it. -/
  item : ∀ item : Item, item.IsListed → ∀ s,
    write (item.directive ++ s) = (write s).map (item.render t.moment ++ ·)

/-- **Listed items are written by their text.** -/
theorem IsFormatter.write_directives (h : IsFormatter write t)
    (hlisted : ∀ item ∈ items, item.IsListed) :
    write (directives items) = some (render items t) := by
  induction items with
  | nil => exact h.nil
  | cons item items ih =>
    obtain ⟨hitem, hitems⟩ := List.forall_mem_cons.1 hlisted
    rw [directives, List.flatMap_cons, ← directives, h.item item hitem, ih hitems]
    rfl

/-- The text of an instant by a format. -/
def renderFormat? (s : List Char) (t : Instant) : Option (List Char) :=
  (readFormat? s).map (render · t)

/-- **Reading a format and writing its items is such a function.** -/
theorem isFormatter_renderFormat? (t : Instant) : IsFormatter (renderFormat? · t) t where
  nil := by
    rw [renderFormat?, readFormat?]
    rfl
  item := by
    intro item hitem s
    rw [renderFormat?, readFormat?_append hitem, Option.map_map, renderFormat?, Option.map_map]
    rfl

/-! ### Quoted texts -/

/-- **A text in quotes,** its own quotes written twice. -/
def quotedPattern (s : List Char) : List Char :=
  quoteMark :: (s.flatMap (fun c => if c = quoteMark then [quoteMark, quoteMark] else [c]) ++
    [quoteMark])

/-- Inside quotes every character stands for itself, up to the quote at the end. -/
theorem itemsFrom_doubled (s : List Char) :
    itemsFrom true
        (s.flatMap (fun c => if c = quoteMark then [quoteMark, quoteMark] else [c]) ++
          [quoteMark]) =
      s.map .char := by
  induction s with
  | nil => exact itemsFrom_quote_nil true
  | cons c s ih =>
    rw [List.flatMap_cons, List.append_assoc, List.map_cons, ← ih]
    by_cases hc : c = quoteMark
    · rw [if_pos hc, hc]
      exact itemsFrom_quote_quote true _
    · rw [if_neg hc]
      exact itemsFrom_cons hc (Or.inl rfl) _

/-- **The pattern of a text in quotes is the text,** unless there are only quotes. -/
theorem patternItems_quotedPattern (hs : ∃ c ∈ s, c ≠ quoteMark) :
    patternItems (quotedPattern s) = s.map .char := by
  obtain ⟨c, hc, hne⟩ := hs
  induction s with
  | nil => cases hc
  | cons d s ih =>
    rw [patternItems, quotedPattern]
    by_cases hd : d = quoteMark
    · -- the first two quotes are one, and what follows them is quoted again
      have hmem : c ∈ s := (List.mem_cons.1 hc).resolve_left fun heq => hne (heq.trans hd)
      rw [List.flatMap_cons, if_pos hd, List.map_cons, ← ih hmem, hd]
      exact itemsFrom_quote_quote false _
    · rw [← itemsFrom_doubled (d :: s), List.flatMap_cons, if_neg hd]
      exact itemsFrom_quote_cons false hd _

/-- Characters are written as they are. -/
theorem render_map_char (s : List Char) (t : Instant) : render (s.map .char) t = s := by
  rw [render, List.flatMap_map]
  exact List.flatMap_singleton' s

end RecordFlow.Calendar
