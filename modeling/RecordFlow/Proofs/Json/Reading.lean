import RecordFlow.Json.Reader
import RecordFlow.Proofs.Json.Tokens
import RecordFlow.Proofs.Text.Splitting
import RecordFlow.Proofs.Value.Nesting

/-!
# Reading what was written

A value that is written in either layout is read as one tree, whatever containers are open
around it and whatever follows it (`isReadAs_compact`, `isReadAs_indentedAt`).  The two layouts
differ in white space only, so it is the same tree (`written?`).

The items of an array and the fields of an object are read one after the other, by an induction
along their list for each kind of container (`readFrom_items`, `readFrom_fields`).

What is made of the tree depends on the number of levels that are allowed (`reread?`).  A value
that is nested too deep is not read (`reread?_eq_none`), and one that is not, with its numbers
integers of 64 bits, is read as it was (`reread?_eq_some`).

## Main definitions

* `readFrom` — the state after a text.
* `written?` — the tree that is written for a value.
* `IsReadAs` — a text is read as a value within others.
* `fieldText` — the text of a field.
* `reread?` — what a value is read as after it was written.
-/

namespace RecordFlow.Json

open Text Numeral

variable {levels : ℕ} {frames : List Frame} {expect : Expectation} {token : Token} {v : Value}
variable {c : Char} {s gap close colon rest after : List Char}

/-! ### One token after the other -/

/-- **The state after a text,** from any state on.  What is read of a text that is put together
can so be told of its parts, with the state between them. -/
def readFrom (state : State) (s : List Char) : Option State :=
  (tokens? s).bind (run state)

theorem readFrom_nil (state : State) : readFrom state [] = some state := by
  rw [readFrom, tokens?]
  rfl

/-- White space is passed over. -/
theorem readFrom_gap (hgap : ∀ c ∈ gap, isSpace c = true) (state : State) (s : List Char) :
    readFrom state (gap ++ s) = readFrom state s := by
  induction gap with
  | nil => rfl
  | cons c gap ih =>
    obtain ⟨hc, hgap⟩ := List.forall_mem_cons.1 hgap
    rw [← ih hgap, List.cons_append, readFrom, tokens?, if_pos hc, ← readFrom]

/-- A token has its effect on the state. -/
theorem readFrom_token (h : nextToken? (c :: s) = some (token, after)) (hc : isSpace c = false)
    (hlength : after.length ≤ s.length) (state : State) :
    readFrom state (c :: s) = (step state token).bind fun next => readFrom next after := by
  have htokens : tokens? (c :: s) = (tokens? after).map (token :: ·) := by
    rw [tokens?, hc, if_neg Bool.false_ne_true, h]
    exact dif_pos (Nat.lt_succ_of_le hlength)
  rw [readFrom, htokens]
  cases hafter : tokens? after with
  | none => simp [readFrom, hafter]
  | some tokens => simp [readFrom, hafter, run]

/-- A string is read as one token. -/
theorem readFrom_quoted (text rest : List Char) (state : State) :
    readFrom state (quoted text ++ rest) =
      (step state (.string (some text))).bind fun next => readFrom next rest := by
  have hnext := nextToken?_quoted text rest
  rw [quoted, List.cons_append, List.cons_append] at hnext ⊢
  refine readFrom_token hnext rfl ?_ state
  rw [List.length_append]
  exact Nat.le_add_left _ _

/-- What is no token is not read. -/
theorem readFrom_eq_none (hc : isSpace c = false) (h : nextToken? (c :: s) = none)
    (state : State) : readFrom state (c :: s) = none := by
  rw [readFrom, tokens?, hc, if_neg Bool.false_ne_true, h]
  rfl

/-! ### Where values may stand -/

/-- **A value may come next.**  At the beginning of an array it need not, as the array may end
there. -/
inductive Expectation.AdmitsValue : Expectation → Prop
  | value : AdmitsValue .value
  | itemOrEnd : AdmitsValue .itemOrEnd

/-- A token that ends no array begins a value where one may come. -/
theorem step_of_admitsValue (h : expect.AdmitsValue) (htoken : token ≠ .closeArray) :
    step ⟨frames, expect⟩ token = beginValue frames token := by
  cases h with
  | value => rfl
  | itemOrEnd =>
    cases token with
    | closeArray => exact absurd rfl htoken
    | _ => rfl

/-- White space does not go on with a number. -/
theorem ends_gap (hgap : ∀ c ∈ gap, isSpace c = true) (h : Ends isAsciiDigit s) :
    Ends isAsciiDigit (gap ++ s) := by
  cases gap with
  | nil => exact h
  | cons c gap =>
    rintro d ⟨⟩
    have hc := hgap c List.mem_cons_self
    simp only [isSpace, Bool.or_eq_true, beq_iff_eq] at hc
    rcases hc with ((rfl | rfl) | rfl) | rfl <;> decide

/-- The marks that may follow a value do not go on with a number. -/
theorem ends_mark (hc : c ∈ [',', ']', '\x7d']) (s : List Char) : Ends isAsciiDigit (c :: s) := by
  have hall : ∀ d ∈ [',', ']', '\x7d'],
      isAsciiDigit d = false ∧ d ≠ '.' ∧ d ≠ 'e' ∧ d ≠ 'E' := by simp [isAsciiDigit]
  rintro d ⟨⟩
  exact hall c hc

/-! ### What is read -/

mutual

/-- **The tree that is written for a value,** unless there is a number in it that is written as
no token. -/
def written? : Value → Option Tree
  | .null => some (.scalar (some .null))
  | .bool b => some (.scalar (some (.bool b)))
  | .num number => (scannedNumber? number).map .scalar
  | .str s => some (.string (some s.toList))
  | .arr items => (writtenItems? items).map .array
  | .obj fields => (writtenFields? fields).map .object

/-- The trees that are written for the items of an array. -/
def writtenItems? : List Value → Option (List Tree)
  | [] => some []
  | item :: items => (written? item).bind fun t => (writtenItems? items).map (t :: ·)

/-- The names and trees that are written for the fields of an object. -/
def writtenFields? : List (String × Value) → Option (List (Option (List Char) × Tree))
  | [] => some []
  | (name, value) :: fields =>
    (written? value).bind fun t => (writtenFields? fields).map ((some name.toList, t) :: ·)

end

/-- **A text is read as a value,** within the containers that are open and before what follows.
What follows must not go on with a number, since the end of a number is only seen by what stands
behind it. -/
def IsReadAs (s : List Char) (v : Value) : Prop :=
  ∀ ⦃frames : List Frame⦄ ⦃expect : Expectation⦄ ⦃rest : List Char⦄,
    expect.AdmitsValue → Ends isAsciiDigit rest →
      readFrom ⟨frames, expect⟩ (s ++ rest) =
        (written? v).bind fun t => readFrom (deliver frames t) rest

/-! ### Scalars -/

theorem isReadAs_scalar {scanned : Option (Option Value)} (hc : isSpace c = false)
    (h : ∀ rest, Ends isAsciiDigit rest →
      nextToken? (c :: s ++ rest) = scanned.map fun v => (.scalar v, rest))
    (hwritten : written? v = scanned.map .scalar) : IsReadAs (c :: s) v := by
  intro frames expect rest hadmits hrest
  have hnext := h rest hrest
  rw [hwritten]
  cases scanned with
  | none => exact readFrom_eq_none hc hnext _
  | some w =>
    rw [List.cons_append] at hnext ⊢
    have hscalar : step ⟨frames, expect⟩ (.scalar w) = some (deliver frames (.scalar w)) :=
      step_of_admitsValue hadmits nofun
    rw [readFrom_token hnext hc (by simp), hscalar]
    rfl

theorem isReadAs_null : IsReadAs "null".toList .null := by
  have hwritten : written? .null = (some (some .null)).map .scalar := by
    rw [written?]
    rfl
  exact isReadAs_scalar rfl (fun _ _ => rfl) hwritten

theorem isReadAs_bool (b : Bool) :
    IsReadAs (if b then "true".toList else "false".toList) (.bool b) := by
  have hwritten : written? (.bool b) = (some (some (.bool b))).map .scalar := by
    rw [written?]
    rfl
  cases b with
  | true => exact isReadAs_scalar rfl (fun _ _ => rfl) hwritten
  | false => exact isReadAs_scalar rfl (fun _ _ => rfl) hwritten

theorem isReadAs_numberText (number : Number) : IsReadAs (numberText number) (.num number) := by
  obtain ⟨c, u, htext, hc⟩ := exists_cons_numberText number
  have hnext := fun rest hrest => nextToken?_numberText (r := rest) number hrest
  rw [htext] at hnext ⊢
  exact isReadAs_scalar hc hnext (by rw [written?])

theorem isReadAs_quoted (s : String) : IsReadAs (quoted s.toList) (.str s) := by
  intro frames expect rest hadmits _
  have hstring : step ⟨frames, expect⟩ (.string (some s.toList)) =
      some (deliver frames (.string (some s.toList))) := step_of_admitsValue hadmits nofun
  rw [readFrom_quoted, hstring, written?]
  rfl

/-! ### Arrays -/

/-- **The items of an array are read one after the other,** up to its end. -/
theorem readFrom_items {text : Value → List Char} {items : List Value}
    (hgap : ∀ c ∈ gap, isSpace c = true) (hclose : ∀ c ∈ close, isSpace c = true)
    (hne : items ≠ []) (htext : ∀ item ∈ items, IsReadAs (text item) item)
    (hadmits : expect.AdmitsValue) (before : List Tree) (rest : List Char) :
    readFrom ⟨.array before :: frames, expect⟩
        (joinWith (',' :: gap) (items.map text) ++ (close ++ ']' :: rest)) =
      (writtenItems? items).bind fun trees =>
        readFrom (deliver frames (.array (before.reverse ++ trees))) rest := by
  induction items generalizing before expect with
  | nil => exact absurd rfl hne
  | cons item items ih =>
    obtain ⟨hitem, htext⟩ := List.forall_mem_cons.1 htext
    rw [writtenItems?, Option.bind_assoc]
    cases items with
    | nil =>
      have hends : Ends isAsciiDigit (close ++ ']' :: rest) :=
        ends_gap hclose (ends_mark (by decide) rest)
      rw [List.map_singleton, joinWith, hitem hadmits hends]
      congr 1
      funext t
      show readFrom ⟨.array (t :: before) :: frames, .commaOrEnd⟩ _ = _
      rw [readFrom_gap hclose, readFrom_token (nextToken?_closeArray _) rfl le_rfl, writtenItems?]
      simp [step]
    | cons next items =>
      rw [List.map_cons, joinWith_cons (by simp)]
      simp only [List.append_assoc, List.cons_append]
      rw [hitem hadmits (ends_mark (by decide) _)]
      congr 1
      funext t
      show readFrom ⟨.array (t :: before) :: frames, .commaOrEnd⟩ _ = _
      rw [readFrom_token (nextToken?_comma _) rfl le_rfl, Option.bind_map]
      show readFrom ⟨.array (t :: before) :: frames, .value⟩ _ = _
      rw [readFrom_gap hgap, ih (List.cons_ne_nil _ _) htext .value]
      simp

/-- **An array is read** as what its items are read as. -/
theorem isReadAs_arr {text : Value → List Char} {items : List Value}
    (hgap : ∀ c ∈ gap, isSpace c = true) (hclose : ∀ c ∈ close, isSpace c = true)
    (htext : ∀ item ∈ items, IsReadAs (text item) item) :
    IsReadAs ('[' :: (gap ++ (joinWith (',' :: gap) (items.map text) ++ (close ++ [']']))))
      (.arr items) := by
  intro frames expect rest hadmits _
  simp only [List.cons_append, List.append_assoc, List.nil_append]
  have hopen : step ⟨frames, expect⟩ .openArray = some ⟨.array [] :: frames, .itemOrEnd⟩ :=
    step_of_admitsValue hadmits nofun
  rw [readFrom_token (nextToken?_openArray _) rfl le_rfl, hopen, Option.bind_some,
    readFrom_gap hgap, written?, Option.bind_map]
  cases items with
  | nil =>
    rw [List.map_nil, joinWith, List.nil_append, readFrom_gap hclose,
      readFrom_token (nextToken?_closeArray _) rfl le_rfl, writtenItems?]
    rfl
  | cons item items =>
    rw [readFrom_items hgap hclose (List.cons_ne_nil _ _) htext .itemOrEnd]
    rfl

/-! ### Objects -/

/-- **The name of a field may come next.**  It must come behind a comma, and may come at the
beginning of an object. -/
inductive Expectation.AdmitsName : Expectation → Prop
  | name : AdmitsName .name
  | nameOrEnd : AdmitsName .nameOrEnd

/-- A field, with white space behind its colon. -/
def fieldText (colon : List Char) (text : Value → List Char) (field : String × Value) : List Char :=
  quoted field.1.toList ++ ':' :: (colon ++ text field.2)

/-- A name is read up to the value behind it. -/
theorem readFrom_name (hcolon : ∀ c ∈ colon, isSpace c = true) (hadmits : expect.AdmitsName)
    (name : List Char) (old : Option (List Char)) (fields : List (Option (List Char) × Tree))
    (frames : List Frame) (s : List Char) :
    readFrom ⟨.object fields old :: frames, expect⟩ (quoted name ++ ':' :: (colon ++ s)) =
      readFrom ⟨.object fields (some name) :: frames, .value⟩ s := by
  have hname : step ⟨.object fields old :: frames, expect⟩ (.string (some name)) =
      some ⟨.object fields (some name) :: frames, .colon⟩ := by
    cases hadmits <;> simp [step]
  rw [readFrom_quoted, hname, Option.bind_some, readFrom_token (nextToken?_colon _) rfl le_rfl]
  exact readFrom_gap hcolon _ s

/-- **The fields of an object are read one after the other,** up to its end. -/
theorem readFrom_fields {text : Value → List Char} {fields : List (String × Value)}
    (hgap : ∀ c ∈ gap, isSpace c = true) (hclose : ∀ c ∈ close, isSpace c = true)
    (hcolon : ∀ c ∈ colon, isSpace c = true) (hne : fields ≠ [])
    (htext : ∀ field ∈ fields, IsReadAs (text field.2) field.2) (hadmits : expect.AdmitsName)
    (before : List (Option (List Char) × Tree)) (old : Option (List Char)) (rest : List Char) :
    readFrom ⟨.object before old :: frames, expect⟩
        (joinWith (',' :: gap) (fields.map (fieldText colon text)) ++ (close ++ '\x7d' :: rest)) =
      (writtenFields? fields).bind fun trees =>
        readFrom (deliver frames (.object (before.reverse ++ trees))) rest := by
  induction fields generalizing before old expect with
  | nil => exact absurd rfl hne
  | cons field fields ih =>
    obtain ⟨name, value⟩ := field
    obtain ⟨hvalue, htext⟩ := List.forall_mem_cons.1 htext
    rw [writtenFields?, Option.bind_assoc]
    cases fields with
    | nil =>
      have hends : Ends isAsciiDigit (close ++ '\x7d' :: rest) :=
        ends_gap hclose (ends_mark (by decide) rest)
      rw [List.map_singleton, joinWith, fieldText]
      simp only [List.append_assoc, List.cons_append]
      rw [readFrom_name hcolon hadmits, hvalue .value hends]
      congr 1
      funext t
      show readFrom ⟨.object ((some name.toList, t) :: before) (some name.toList) :: frames,
        .commaOrEnd⟩ _ = _
      rw [readFrom_gap hclose, readFrom_token (nextToken?_closeObject _) rfl le_rfl,
        writtenFields?]
      simp [step]
    | cons next fields =>
      rw [List.map_cons, joinWith_cons (by simp), fieldText]
      simp only [List.append_assoc, List.cons_append]
      rw [readFrom_name hcolon hadmits, hvalue .value (ends_mark (by decide) _)]
      congr 1
      funext t
      show readFrom ⟨.object ((some name.toList, t) :: before) (some name.toList) :: frames,
        .commaOrEnd⟩ _ = _
      rw [readFrom_token (nextToken?_comma _) rfl le_rfl, Option.bind_map]
      show readFrom ⟨.object ((some name.toList, t) :: before) (some name.toList) :: frames,
        .name⟩ _ = _
      rw [readFrom_gap hgap, ih (List.cons_ne_nil _ _) htext .name]
      simp

/-- **An object is read** as what its fields are read as. -/
theorem isReadAs_obj {text : Value → List Char} {fields : List (String × Value)}
    (hgap : ∀ c ∈ gap, isSpace c = true) (hclose : ∀ c ∈ close, isSpace c = true)
    (hcolon : ∀ c ∈ colon, isSpace c = true)
    (htext : ∀ field ∈ fields, IsReadAs (text field.2) field.2) :
    IsReadAs ('\x7b' :: (gap ++ (joinWith (',' :: gap) (fields.map (fieldText colon text)) ++
      (close ++ ['\x7d'])))) (.obj fields) := by
  intro frames expect rest hadmits _
  simp only [List.cons_append, List.append_assoc, List.nil_append]
  have hopen : step ⟨frames, expect⟩ .openObject =
      some ⟨.object [] none :: frames, .nameOrEnd⟩ := step_of_admitsValue hadmits nofun
  rw [readFrom_token (nextToken?_openObject _) rfl le_rfl, hopen, Option.bind_some,
    readFrom_gap hgap, written?, Option.bind_map]
  cases fields with
  | nil =>
    rw [List.map_nil, joinWith, List.nil_append, readFrom_gap hclose,
      readFrom_token (nextToken?_closeObject _) rfl le_rfl, writtenFields?]
    rfl
  | cons field fields =>
    rw [readFrom_fields hgap hclose hcolon (List.cons_ne_nil _ _) htext .nameOrEnd]
    rfl

/-! ### The two layouts -/

theorem compactItems_eq (items : List Value) :
    compactItems items = joinWith [','] (items.map compact) :=
  eq_joinWith_map (by rw [compactItems]) (fun item => by rw [compactItems])
    (fun item next rest => by rw [compactItems]; rfl) items

theorem compactFields_eq (fields : List (String × Value)) :
    compactFields fields = joinWith [','] (fields.map (fieldText [] compact)) :=
  eq_joinWith_map (by rw [compactFields]) (fun field => by rw [compactFields]; rfl)
    (fun field next rest => by rw [compactFields]; rfl) fields

/-- **A value without white space is read as a value.** -/
theorem isReadAs_compact (v : Value) : IsReadAs (compact v) v := by
  have hnone : ∀ c ∈ ([] : List Char), isSpace c = true := nofun
  induction v using Value.induction with
  | null =>
    rw [compact]
    exact isReadAs_null
  | bool b =>
    cases b <;> rw [compact]
    exacts [isReadAs_bool false, isReadAs_bool true]
  | num number =>
    rw [compact]
    exact isReadAs_numberText number
  | str s =>
    rw [compact]
    exact isReadAs_quoted s
  | arr items ih =>
    rw [compact, compactItems_eq]
    exact isReadAs_arr hnone hnone ih
  | obj fields ih =>
    rw [compact, compactFields_eq]
    exact isReadAs_obj hnone hnone hnone ih

theorem isSpace_of_mem_newline (depth : ℕ) : ∀ c ∈ newline depth, isSpace c = true := by
  intro c hc
  rcases List.mem_cons.1 hc with rfl | hc
  · rfl
  · rw [(List.mem_replicate.1 hc).2]
    rfl

theorem indentedItems_eq (depth : ℕ) (items : List Value) :
    indentedItems depth items =
      joinWith (',' :: newline depth) (items.map (indentedAt depth)) :=
  eq_joinWith_map (by rw [indentedItems]) (fun item => by rw [indentedItems])
    (fun item next rest => by rw [indentedItems, List.append_assoc]) items

theorem indentedFields_eq (depth : ℕ) (fields : List (String × Value)) :
    indentedFields depth fields =
      joinWith (',' :: newline depth) (fields.map (fieldText [' '] (indentedAt depth))) :=
  eq_joinWith_map (by rw [indentedFields]) (fun field => by rw [indentedFields]; rfl)
    (fun field next rest => by rw [indentedFields, List.append_assoc]; rfl) fields

/-- **A value on indented lines is read as a value.** -/
theorem isReadAs_indentedAt (v : Value) (depth : ℕ) : IsReadAs (indentedAt depth v) v := by
  have hnone : ∀ c ∈ ([] : List Char), isSpace c = true := nofun
  have hblank : ∀ c ∈ [' '], isSpace c = true := List.forall_mem_singleton.2 rfl
  induction v using Value.induction generalizing depth with
  | null =>
    rw [indentedAt]
    exact isReadAs_null
  | bool b =>
    cases b <;> rw [indentedAt]
    exacts [isReadAs_bool false, isReadAs_bool true]
  | num number =>
    rw [indentedAt]
    exact isReadAs_numberText number
  | str s =>
    rw [indentedAt]
    exact isReadAs_quoted s
  | arr items ih =>
    cases items with
    | nil =>
      have hempty := isReadAs_compact (.arr [])
      rw [compact, compactItems] at hempty
      rw [indentedAt]
      exact hempty
    | cons item items =>
      have harr := isReadAs_arr (isSpace_of_mem_newline (depth + 1)) (isSpace_of_mem_newline depth)
        fun item hitem => ih item hitem (depth + 1)
      rw [← indentedItems_eq] at harr
      rw [indentedAt]
      simpa using harr
  | obj fields ih =>
    cases fields with
    | nil =>
      have hempty := isReadAs_compact (.obj [])
      rw [compact, compactFields] at hempty
      rw [indentedAt]
      exact hempty
    | cons field fields =>
      have hobj := isReadAs_obj (isSpace_of_mem_newline (depth + 1)) (isSpace_of_mem_newline depth)
        hblank fun field hfield => ih field hfield (depth + 1)
      rw [← indentedFields_eq] at hobj
      rw [indentedAt]
      simpa using hobj

/-! ### What is understood of it -/

section Levels

variable {item : Value} {items : List Value} {field : String × Value}
variable {fields : List (String × Value)}

/-- **What a value is read as after it was written,** with so many levels left.  It need not be
the value: what is nested too deep is not read, and a number may come back as a neighbour of
it. -/
def reread? (levels : ℕ) (v : Value) : Option Value :=
  (written? v).bind (Tree.value? .data levels)

/-- What the items of an array are read as. -/
def rereadItems? (levels : ℕ) (items : List Value) : Option (List Value) :=
  (writtenItems? items).bind (Tree.itemValues? .data levels)

/-- What the fields of an object are read as. -/
def rereadFields? (levels : ℕ) (fields : List (String × Value)) : Option (List (String × Value)) :=
  (writtenFields? fields).bind (Tree.fieldValues? levels)

/-- **A text is read as its value.** -/
theorem readWithin?_of_isReadAs (h : IsReadAs s v) (limit : ℕ) :
    readWithin? limit s = reread? limit v := by
  have hread : readFrom ⟨[], .value⟩ (s ++ []) = _ := h .value ends_nil
  rw [List.append_nil] at hread
  have htree : tree? s = written? v := by
    show (readFrom start s).bind _ = _
    rw [start, hread]
    cases written? v with
    | none => rfl
    | some t => rw [Option.bind_some, deliver, readFrom_nil, Option.bind_some]
  rw [readWithin?, htree, reread?]

theorem reread?_arr_zero (items : List Value) : reread? 0 (.arr items) = none := by
  rw [reread?, written?, Option.bind_map]
  exact Option.bind_fun_none _

theorem reread?_arr_succ (levels : ℕ) (items : List Value) :
    reread? (levels + 1) (.arr items) = (rereadItems? levels items).map .arr := by
  rw [reread?, written?, Option.bind_map, rereadItems?, Option.map_bind]
  rfl

theorem reread?_obj_zero (fields : List (String × Value)) : reread? 0 (.obj fields) = none := by
  rw [reread?, written?, Option.bind_map]
  exact Option.bind_fun_none _

theorem reread?_obj_succ (levels : ℕ) (fields : List (String × Value)) :
    reread? (levels + 1) (.obj fields) =
      (rereadFields? levels fields).map fun fields => .obj (Fields.ofList fields) := by
  rw [reread?, written?, Option.bind_map, rereadFields?, Option.map_bind]
  rfl

/-- The items of an array are understood one after the other. -/
theorem rereadItems?_cons (levels : ℕ) (item : Value) (items : List Value) :
    rereadItems? levels (item :: items) =
      (reread? levels item).bind fun w => (rereadItems? levels items).map (w :: ·) := by
  rw [rereadItems?, rereadItems?, reread?, writtenItems?]
  cases written? item with
  | none => rfl
  | some t =>
    cases writtenItems? items with
    | none => exact (Option.bind_fun_none _).symm
    | some trees =>
      show Tree.itemValues? .data levels (t :: trees) = (Tree.value? .data levels t).bind fun w =>
        (Tree.itemValues? .data levels trees).map (w :: ·)
      rw [Tree.itemValues?]
      simp [Option.map_eq_bind]

/-- The fields of an object are understood one after the other. -/
theorem rereadFields?_cons (levels : ℕ) (field : String × Value)
    (fields : List (String × Value)) :
    rereadFields? levels (field :: fields) =
      (reread? levels field.2).bind fun w =>
        (rereadFields? levels fields).map ((field.1, w) :: ·) := by
  rw [rereadFields?, rereadFields?, reread?, writtenFields?]
  cases written? field.2 with
  | none => rfl
  | some t =>
    cases writtenFields? fields with
    | none => exact (Option.bind_fun_none _).symm
    | some trees =>
      show Tree.fieldValues? levels ((some field.1.toList, t) :: trees) =
        (Tree.value? .data levels t).bind fun w =>
          (Tree.fieldValues? levels trees).map ((field.1, w) :: ·)
      rw [Tree.fieldValues?]
      simp [Option.map_eq_bind]

theorem rereadItems?_eq_none (hitem : item ∈ items) (h : reread? levels item = none) :
    rereadItems? levels items = none := by
  induction items with
  | nil => cases hitem
  | cons first items ih =>
    rw [rereadItems?_cons]
    rcases List.mem_cons.1 hitem with rfl | hitem
    · rw [h, Option.bind_none]
    · rw [ih hitem]
      exact Option.bind_fun_none _

theorem rereadFields?_eq_none (hfield : field ∈ fields) (h : reread? levels field.2 = none) :
    rereadFields? levels fields = none := by
  induction fields with
  | nil => cases hfield
  | cons first fields ih =>
    rw [rereadFields?_cons]
    rcases List.mem_cons.1 hfield with rfl | hfield
    · rw [h, Option.bind_none]
    · rw [ih hfield]
      exact Option.bind_fun_none _

/-- **A value with more levels than are left is not read.** -/
theorem reread?_eq_none (h : levels < v.depth) : reread? levels v = none := by
  induction v using Value.induction generalizing levels with
  | arr items ih =>
    cases levels with
    | zero => exact reread?_arr_zero items
    | succ levels =>
      have hinner : levels < Value.depthItems items := by
        rw [Value.depth] at h
        omega
      obtain ⟨item, hitem, hdeep⟩ := Value.lt_depthItems_iff.1 hinner
      rw [reread?_arr_succ, rereadItems?_eq_none hitem (ih item hitem hdeep), Option.map_none]
  | obj fields ih =>
    cases levels with
    | zero => exact reread?_obj_zero fields
    | succ levels =>
      have hinner : levels < Value.depthFields fields := by
        rw [Value.depth] at h
        omega
      obtain ⟨field, hfield, hdeep⟩ := Value.lt_depthFields_iff.1 hinner
      rw [reread?_obj_succ, rereadFields?_eq_none hfield (ih field hfield hdeep), Option.map_none]
  | _ => simp [Value.depth] at h

theorem rereadItems?_eq_some (h : ∀ item ∈ items, reread? levels item = some item) :
    rereadItems? levels items = some items := by
  induction items with
  | nil =>
    rw [rereadItems?, writtenItems?]
    rfl
  | cons item items ih =>
    obtain ⟨hitem, hitems⟩ := List.forall_mem_cons.1 h
    rw [rereadItems?_cons, hitem, ih hitems]
    rfl

theorem rereadFields?_eq_some (h : ∀ field ∈ fields, reread? levels field.2 = some field.2) :
    rereadFields? levels fields = some fields := by
  induction fields with
  | nil =>
    rw [rereadFields?, writtenFields?]
    rfl
  | cons field fields ih =>
    obtain ⟨hfield, hfields⟩ := List.forall_mem_cons.1 h
    rw [rereadFields?_cons, hfield, ih hfields]
    rfl

/-- **Data of a machine that has no more levels than are left is read as it was.**  Its numbers
are integers, so none of them is rounded on the way. -/
theorem reread?_eq_some (hdata : v.IsMachineData) (h : v.depth ≤ levels) :
    reread? levels v = some v := by
  induction hdata generalizing levels with
  | @int n hn =>
    have hwritten : written? (.int n) = some (.scalar (some (.int n))) :=
      (written?.eq_3 _).trans (congrArg (Option.map Tree.scalar) (scannedNumber?_int hn))
    rw [reread?, hwritten, Option.bind_some, Tree.value?]
  | str s =>
    rw [reread?, written?, Option.bind_some, Tree.value?, Option.map_some, Value.text,
      String.ofList_toList]
  | @arr items _ ih =>
    rw [Value.depth] at h
    obtain ⟨inner, rfl⟩ := Nat.exists_eq_add_of_le h
    have hinner : Value.depthItems items ≤ Value.depthItems items + inner := Nat.le_add_right _ _
    have hread := rereadItems?_eq_some fun item hitem =>
      ih item hitem (Value.depthItems_le_iff.1 hinner item hitem)
    rw [Nat.add_assoc, Nat.add_comm 1, reread?_arr_succ, hread, Option.map_some]
  | @obj fields hordered _ ih =>
    rw [Value.depth] at h
    obtain ⟨inner, rfl⟩ := Nat.exists_eq_add_of_le h
    have hinner : Value.depthFields fields ≤ Value.depthFields fields + inner :=
      Nat.le_add_right _ _
    have hread := rereadFields?_eq_some fun field hfield =>
      ih field hfield (Value.depthFields_le_iff.1 hinner field hfield)
    rw [Nat.add_assoc, Nat.add_comm 1, reread?_obj_succ, hread, Option.map_some,
      hordered.ofList_eq]
  | _ => rw [reread?, written?, Option.bind_some, Tree.value?]

end Levels

end RecordFlow.Json
