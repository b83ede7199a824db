import RecordFlow.Proofs.Formula.ConditionGrammar
import RecordFlow.Step.Choice

/-!
# What the answer to a condition depends on

A condition is about the value or about the record, and which of the two can be seen from its
text.  One that begins with the word for the value does not look at the record (`IsOnValue`),
and one that compares what stands at a path of the record looks at nothing else (`IsOnRecord`).
Any other text is no condition.

The failures can be seen from the text as well (`decideCondition_eq_error_iff`): a text is no
condition, or it is about a record and there is none, or it compares a length with digits that
are no number of 64 bits.

The forms are said of the trimmed text, by what it is put together from.  Reading agrees with
them (`isOnValue_iff`, `isOnRecord_iff`, `isOnLength_iff`, `read?_eq_none_iff`): it finds a
comparison wherever one is written, if perhaps with an earlier operator than the one that it is
written with, and what it finds is written there.

## Main definitions

* `Compares` — a text is an operator and an operand.
* `IsOnValue`, `IsOnRecord`, `IsOnLength` — three forms of condition.
* `Fits64` — whether digits are a number of 64 bits.
-/

namespace RecordFlow.Formula

open Text

variable {op : Comparison} {s t path digits operand : List Char} {condition : Condition}

/-! ### Forms of condition -/

/-- **A text is an operator and an operand,** each after white space or none. -/
def Compares (op : Comparison) (operand s : List Char) : Prop :=
  ∃ before after, allBlank before = true ∧ allBlank after = true ∧
    s = before ++ op.symbol.toList ++ (after ++ operand)

/-- **A text is about the value:** it begins with the word for it, and not with a longer word.
Whether it is goes by the text alone and not by what it is read as. -/
def IsOnValue (s : List Char) : Prop :=
  ∃ rest, s = "value".toList ++ rest ∧ ∀ c ∈ rest.head?, isWord c = false

/-- **A text compares what stands at a path of the record** with a literal of one line.  Of all
texts, only these are answered from the record. -/
def IsOnRecord (path s : List Char) : Prop :=
  path ≠ [] ∧ (∀ c ∈ path, isWord c = true ∨ c = '.') ∧
    ∃ rest op operand, s = "record.".toList ++ (path ++ rest) ∧ Compares op operand rest ∧
      operand ≠ [] ∧ '\n' ∉ operand

/-- **A text compares the length of the value** with digits, of any script. -/
def IsOnLength (digits s : List Char) : Prop :=
  digits ≠ [] ∧ (∀ c ∈ digits, isDecimalDigit c = true) ∧
    ∃ rest op, s = "value.length".toList ++ rest ∧ Compares op digits rest

/-- **Digits are a number of 64 bits,** which only ASCII digits are.  The form of a comparison
of a length admits digits of any script and any number of them; so a condition of a proper form
may still have no answer. -/
def Fits64 (digits : List Char) : Prop :=
  (∀ c ∈ digits, isAsciiDigit c = true) ∧ digitsValue digits < 2 ^ 64

/-- The path of the record that a condition is about, if it is about the record. -/
def Condition.recordPath? : Condition → Option String
  | compareRecord path _ _ => some path
  | _ => none

/-! ### Reading an operator and its operand -/

/-- What is read as a comparison is one. -/
theorem compares_of_readComparison? {accept : List Char → Bool}
    (h : readComparison? accept s = some (op, operand)) :
    Compares op operand s ∧ accept operand = true := by
  obtain ⟨found, -, hfound⟩ := List.exists_of_findSome?_eq_some h
  obtain ⟨rest, hrest, hif⟩ := Option.bind_eq_some_iff.1 hfound
  simp only [Option.ite_none_right_eq_some, Option.some.injEq, Prod.mk.injEq] at hif
  obtain ⟨haccept, rfl, rfl⟩ := hif
  obtain ⟨before, hbefore, hs⟩ := exists_eq_append_trimStart s
  obtain ⟨after, hafter, hr⟩ := exists_eq_append_trimStart rest
  refine ⟨⟨before, after, hbefore, hafter, ?_⟩, haccept⟩
  rw [← hr, List.append_assoc, ← dropPrefix?_eq_some_iff.1 hrest, ← hs]

/-- What is a comparison is read as one, though perhaps not with this operator. -/
theorem exists_readComparison? {accept : List Char → Bool} (h : Compares op operand s)
    (haccept : accept (trimStart operand) = true) :
    ∃ found, readComparison? accept s = some found := by
  obtain ⟨before, after, hbefore, hafter, rfl⟩ := h
  rw [← Option.isSome_iff_exists, readComparison?, List.findSome?_isSome_iff]
  refine ⟨op, by cases op <;> decide, ?_⟩
  have hsymbol : trimStart (before ++ op.symbol.toList ++ (after ++ operand)) =
      op.symbol.toList ++ (after ++ operand) := by
    rw [List.append_assoc, trimStart_append_of_allBlank hbefore]
    cases op <;> exact trimStart_cons_of_not_blank rfl _
  rw [hsymbol, dropPrefix?_append, Option.bind_some, trimStart_append_of_allBlank hafter,
    if_pos haccept]
  rfl

/-- No comparison begins in a character of a path. -/
theorem Compares.not_isPathChar (h : Compares op operand s) {c : Char} (hc : c ∈ s.head?) :
    isPathChar c = false := by
  obtain ⟨before, after, hbefore, -, rfl⟩ := h
  obtain ⟨d, gap, hgap⟩ : ∃ d gap, before ++ op.symbol.toList = d :: gap :=
    List.exists_cons_of_ne_nil (by cases op <;> simp [Comparison.symbol])
  have hmem : c ∈ before ++ op.symbol.toList := by
    rw [hgap] at hc ⊢
    cases hc
    exact List.mem_cons_self
  exact isPathChar_of_mem_gap hbefore hmem

/-! ### Reading a condition on the record -/

theorem isPathChar_iff {c : Char} : isPathChar c = true ↔ isWord c = true ∨ c = '.' := by
  rw [isPathChar, Bool.or_eq_true, beq_iff_eq]

/-- A comparison with a literal of one line is read, at the end of a trimmed text. -/
theorem Compares.exists_readComparison?_isLine {front : List Char} (h : Compares op operand s)
    (ht : trim t = front ++ s) (hne : operand ≠ []) (hline : '\n' ∉ operand) :
    ∃ found, readComparison? isLine s = some found := by
  refine exists_readComparison? h ?_
  have hblank : allBlank operand = false := by
    obtain ⟨before, after, -, -, rfl⟩ := h
    rw [← List.append_assoc, ← List.append_assoc] at ht
    exact allBlank_of_trim_eq_append ht hne
  rw [isLine, Bool.and_eq_true, Bool.not_eq_true', List.isEmpty_eq_false_iff, Ne,
    trimStart_eq_nil_iff, hblank, List.all_eq_true]
  refine ⟨Bool.false_ne_true, ?_⟩
  intro c hc
  exact bne_iff_ne.2 fun he => hline (he ▸ mem_of_mem_trimStart hc)

theorem read?_of_isOnRecord (h : IsOnRecord path (trim t)) :
    ∃ op operand, Condition.read? t = some (.compareRecord (String.ofList path) op operand) := by
  obtain ⟨hne, hpath, rest, op, operand, ht, hcompares, hoperand, hline⟩ := h
  have hread := hcompares.exists_readComparison?_isLine
    (ht.trans (List.append_assoc _ _ _).symm) hoperand hline
  obtain ⟨⟨op', operand'⟩, hread⟩ := hread
  have hchars : ∀ c ∈ path, isPathChar c = true := fun c hc => isPathChar_iff.2 (hpath c hc)
  have hspan : (path ++ rest).takeWhile isPathChar = path ∧
      (path ++ rest).dropWhile isPathChar = rest := by
    obtain ⟨before, after, hbefore, -, rfl⟩ := hcompares
    exact span_path hchars (fun c hc => isPathChar_of_mem_gap hbefore hc)
      (by cases op <;> simp [Comparison.symbol]) (after ++ operand)
  obtain ⟨d, r, rfl⟩ := List.exists_cons_of_ne_nil hne
  refine ⟨op', literal operand', ?_⟩
  rw [read?_of_record ht, readOnRecord?, hspan.1, hspan.2, hread]
  rfl

/-- What is read after the word for the record and the point compares it. -/
theorem exists_of_readOnRecord? (h : readOnRecord? s = some condition) :
    ∃ path op operand, condition = .compareRecord (String.ofList path) op operand ∧
      IsOnRecord path ("record.".toList ++ s) := by
  rw [readOnRecord?] at h
  split at h
  · cases h
  · next hne =>
    obtain ⟨⟨op, operand⟩, hread, rfl⟩ := Option.map_eq_some_iff.1 h
    obtain ⟨hcompares, hline⟩ := compares_of_readComparison? hread
    rw [isLine, Bool.and_eq_true, Bool.not_eq_true', List.isEmpty_eq_false_iff,
      List.all_eq_true] at hline
    refine ⟨_, op, literal operand, rfl, hne, ?_, s.dropWhile isPathChar, op, operand, ?_,
      hcompares, hline.1, ?_⟩
    · intro c hc
      exact isPathChar_iff.1 (List.mem_takeWhile_imp hc)
    · rw [List.takeWhile_append_dropWhile]
    · intro hmem
      exact absurd (hline.2 '\n' hmem) (by decide)

/-! ### Reading a condition on the value -/

/-- **What is read after the word for the value:** a comparison, a test of a string, a
comparison of the length, nothing in the rest of a longer word, or else the word alone. -/
theorem readOnValue?_cases (s : List Char) :
    (∃ op operand, readOnValue? s = some (.compare op operand)) ∨
    (∃ test needle, readOnValue? s = some (.stringTest test needle)) ∨
    (∃ op digits rest, readOnValue? s = some (.lengthTest op digits) ∧
      s = ".length".toList ++ rest ∧ readComparison? isDigitRow rest = some (op, digits)) ∨
    (readOnValue? s = none ∧ ∃ c ∈ s.head?, isWord c = true) ∨
    readOnValue? s = some .truth := by
  rw [readOnValue?]
  split
  · exact Or.inl ⟨_, _, rfl⟩
  · refine Or.inr ?_
    split
    · exact Or.inl ⟨_, _, rfl⟩
    · refine Or.inr ?_
      split
      · next op digits hlength =>
        obtain ⟨rest, hrest, hread⟩ := Option.bind_eq_some_iff.1 hlength
        exact Or.inl ⟨op, digits, rest, rfl, dropPrefix?_eq_some_iff.1 hrest, hread⟩
      · refine Or.inr ?_
        cases s with
        | nil => exact Or.inr rfl
        | cons c r =>
          cases hword : isWord c with
          | false => exact Or.inr (by simp [hword])
          | true => exact Or.inl ⟨by simp [hword], c, rfl, hword⟩

/-- What is read after the word for the value is not about the record. -/
theorem recordPath?_of_readOnValue? (h : readOnValue? s = some condition) :
    condition.recordPath? = none := by
  rcases readOnValue?_cases s with ⟨_, _, hs⟩ | ⟨_, _, hs⟩ | ⟨_, _, _, hs, -⟩ | ⟨hs, -⟩ | hs <;>
    cases hs.symm.trans h <;> rfl

/-- After the word for the value, everything is read but the rest of a longer word. -/
theorem readOnValue?_eq_none_iff :
    readOnValue? s = none ↔ ∃ c ∈ s.head?, isWord c = true := by
  constructor
  · intro h
    rcases readOnValue?_cases s with
      ⟨_, _, hs⟩ | ⟨_, _, hs⟩ | ⟨_, _, _, hs, -⟩ | ⟨-, hword⟩ | hs
    case inr.inr.inr.inl => exact hword
    all_goals cases hs.symm.trans h
  · rintro ⟨c, hc, hword⟩
    obtain ⟨r, rfl⟩ := List.head?_eq_some_iff.1 hc
    have hnone : readComparison? isLine (c :: r) = none := by
      rw [Option.eq_none_iff_forall_ne_some]
      rintro ⟨op, operand⟩ hread
      have hpath := (compares_of_readComparison? hread).1.not_isPathChar hc
      rw [isPathChar, hword] at hpath
      cases hpath
    have hpoint : '.' ≠ c := by
      rintro rfl
      exact absurd hword (by decide)
    have hlength : ".length".toList = '.' :: "length".toList := by simp
    rw [readOnValue?, hnone, hlength]
    simp [dropPrefix?, hpoint, hword]

theorem read?_of_isOnValue (h : IsOnValue (trim t)) :
    ∃ condition, Condition.read? t = some condition ∧ condition.recordPath? = none := by
  obtain ⟨rest, ht, hword⟩ := h
  rw [read?_of_value ht]
  cases hread : readOnValue? rest with
  | some condition => exact ⟨condition, rfl, recordPath?_of_readOnValue? hread⟩
  | none =>
    obtain ⟨c, hc, hc'⟩ := readOnValue?_eq_none_iff.1 hread
    rw [hword c hc] at hc'
    cases hc'

theorem isOnValue_of_readOnValue? (h : readOnValue? s = some condition) :
    IsOnValue ("value".toList ++ s) := by
  refine ⟨s, rfl, ?_⟩
  intro c hc
  rw [Bool.eq_false_iff]
  intro hword
  rw [readOnValue?_eq_none_iff.2 ⟨c, hc, hword⟩] at h
  cases h

/-- What is read as a comparison of a length compares it. -/
theorem isOnLength_of_readOnValue? (h : readOnValue? s = some (.lengthTest op digits)) :
    IsOnLength digits ("value".toList ++ s) := by
  rcases readOnValue?_cases s with
    ⟨_, _, hs⟩ | ⟨_, _, hs⟩ | ⟨op', digits', rest, hs, hrest, hread⟩ | ⟨hs, -⟩ | hs <;>
    cases hs.symm.trans h
  obtain ⟨hcompares, hrow⟩ := compares_of_readComparison? hread
  rw [isDigitRow, Bool.and_eq_true, Bool.not_eq_true', List.isEmpty_eq_false_iff,
    List.all_eq_true] at hrow
  refine ⟨hrow.1, hrow.2, rest, op, ?_, hcompares⟩
  rw [hrest, ← List.append_assoc]
  simp

/-! ### Reading any text -/

/-- What is read is read after the word for the value or for the record. -/
theorem exists_of_read? (h : Condition.read? t = some condition) :
    (∃ s, trim t = "value".toList ++ s ∧ readOnValue? s = some condition) ∨
      ∃ s, trim t = "record.".toList ++ s ∧ readOnRecord? s = some condition := by
  simp only [Condition.read?] at h
  split at h
  · next s hs => exact Or.inl ⟨s, dropPrefix?_eq_some_iff.1 hs, h⟩
  · obtain ⟨s, hs, hread⟩ := Option.bind_eq_some_iff.1 h
    exact Or.inr ⟨s, dropPrefix?_eq_some_iff.1 hs, hread⟩

/-- **A condition on the value is read if and only if one is written.** -/
theorem isOnValue_iff :
    IsOnValue (trim t) ↔
      ∃ condition, Condition.read? t = some condition ∧ condition.recordPath? = none := by
  constructor
  · intro h
    exact read?_of_isOnValue h
  · rintro ⟨condition, hread, hpath⟩
    rcases exists_of_read? hread with ⟨s, ht, hs⟩ | ⟨s, -, hs⟩
    · exact ht ▸ isOnValue_of_readOnValue? hs
    · obtain ⟨path, op, operand, rfl, -⟩ := exists_of_readOnRecord? hs
      cases hpath

/-- **A condition on the record is read if and only if one is written,** and with the path that
is written. -/
theorem isOnRecord_iff :
    IsOnRecord path (trim t) ↔
      ∃ op operand, Condition.read? t = some (.compareRecord (String.ofList path) op operand) := by
  constructor
  · intro h
    exact read?_of_isOnRecord h
  · rintro ⟨op, operand, hread⟩
    rcases exists_of_read? hread with ⟨s, -, hs⟩ | ⟨s, ht, hs⟩
    · cases recordPath?_of_readOnValue? hs
    · obtain ⟨path', op', operand', hcondition, hpath⟩ := exists_of_readOnRecord? hs
      have hsame := Option.some.inj (congrArg Condition.recordPath? hcondition)
      rw [String.ofList_injective hsame, ht]
      exact hpath

/-- **Nothing is read of any other text.** -/
theorem read?_eq_none_iff :
    Condition.read? t = none ↔
      ¬ IsOnValue (trim t) ∧ ∀ path, ¬ IsOnRecord path (trim t) := by
  constructor
  · intro hnone
    constructor
    · rw [isOnValue_iff, hnone]
      rintro ⟨condition, ⟨⟩, -⟩
    · intro path
      rw [isOnRecord_iff, hnone]
      rintro ⟨op, operand, ⟨⟩⟩
  · rintro ⟨hvalue, hrecord⟩
    rw [Option.eq_none_iff_forall_ne_some]
    intro condition hread
    rcases exists_of_read? hread with ⟨s, ht, hs⟩ | ⟨s, ht, hs⟩
    · exact hvalue (ht ▸ isOnValue_of_readOnValue? hs)
    · obtain ⟨path, op, operand, -, hpath⟩ := exists_of_readOnRecord? hs
      exact hrecord path (ht ▸ hpath)

/-- **A comparison of a length is read if and only if one is written,** and with the digits that
are written. -/
theorem isOnLength_iff :
    IsOnLength digits (trim t) ↔ ∃ op, Condition.read? t = some (.lengthTest op digits) := by
  refine Iff.symm ⟨?_, ?_⟩
  · rintro ⟨op, hread⟩
    rcases exists_of_read? hread with ⟨s, ht, hs⟩ | ⟨s, -, hs⟩
    · exact ht ▸ isOnLength_of_readOnValue? hs
    · obtain ⟨path, op, operand, hcondition, -⟩ := exists_of_readOnRecord? hs
      cases hcondition
  · rintro ⟨hne, hdigits, rest, op, ht, before, after, hbefore, hafter, rfl⟩
    have hsubject : "value.length".toList = "value".toList ++ '.' :: "length".toList := by simp
    refine ⟨op, ?_⟩
    rw [hsubject, List.append_assoc, List.cons_append] at ht
    rw [read?_of_value ht]
    exact readOnValue?_lengthTest (readComparison?_digits hbefore hafter hne hdigits)

/-! ### Answers -/

/-- A condition that is not about the record has the same answer for every one. -/
theorem Condition.decide_of_recordPath? (h : condition.recordPath? = none) (value : Value)
    (record other : Option Value) :
    condition.decide value record = condition.decide value other := by
  cases condition with
  | compareRecord => cases h
  | _ => rfl

theorem filter_readNat?_eq_none_iff (hne : digits ≠ []) :
    (readNat? digits).filter (· < 2 ^ 64) = none ↔ ¬ Fits64 digits := by
  rw [readNat?, List.isEmpty_eq_false_iff.2 hne, Fits64, ← List.all_eq_true]
  cases digits.all isAsciiDigit with
  | false => simp
  | true => simp [Option.filter_eq_none_iff]

/-- Strings and arrays have a length. -/
theorem isSome_lengthOf?_iff {value : Value} :
    (lengthOf? value).isSome = true ↔
      (∃ text, value = .str text) ∨ ∃ items, value = .arr items := by
  cases value <;> simp [lengthOf?]

/-- A comparison of a length fails on a string or array if its digits are no number. -/
theorem Condition.decide_lengthTest_eq_error_iff {value : Value} {record : Option Value}
    {e : EvalError} (hne : digits ≠ []) :
    (Condition.lengthTest op digits).decide value record = .error e ↔
      (lengthOf? value).isSome = true ∧ ¬ Fits64 digits ∧
        e = .invalidNumber (String.ofList digits) "length comparison" := by
  rw [← filter_readNat?_eq_none_iff hne, Condition.decide]
  cases lengthOf? value with
  | none => simp
  | some n =>
    cases (readNat? digits).filter (· < 2 ^ 64) with
    | none => simp [eq_comm]
    | some expected => simp

/-- **When a text has no answer:** it is no condition, or it is about a record that is not
there, or it compares the length of a string or array with digits that are no number of 64
bits. -/
theorem decideCondition_eq_error_iff {value : Value} {record : Option Value} {e : EvalError} :
    decideCondition t value record = .error e ↔
      ((¬ IsOnValue (trim t) ∧ ∀ path, ¬ IsOnRecord path (trim t)) ∧
        e = .unrecognizedCondition (String.ofList (trim t))) ∨
      (record = none ∧ ∃ path, IsOnRecord path (trim t) ∧
        e = .missingRecord (String.ofList path)) ∨
      (((∃ text, value = .str text) ∨ ∃ items, value = .arr items) ∧
        ∃ digits, IsOnLength digits (trim t) ∧ ¬ Fits64 digits ∧
          e = .invalidNumber (String.ofList digits) "length comparison") := by
  rw [← read?_eq_none_iff]
  simp only [isOnRecord_iff, ← isSome_lengthOf?_iff]
  cases hread : Condition.read? t with
  | none =>
    rw [decideCondition, hread]
    simp only [isOnLength_iff, hread]
    simpa using eq_comm
  | some condition =>
    rw [decideCondition_of_read? hread]
    cases condition with
    | lengthTest op digits =>
      have hdigits : IsOnLength digits (trim t) := isOnLength_iff.2 ⟨op, hread⟩
      rw [Condition.decide_lengthTest_eq_error_iff hdigits.1]
      simp [isOnLength_iff, hread]
    | compareRecord path op operand =>
      simp only [isOnLength_iff, hread]
      cases record with
      | some r => simp [Condition.decide]
      | none =>
        have hpath : String.ofList path.toList = path := String.ofList_toList
        have hanswer : (Condition.compareRecord path op operand).decide value none =
            .error (.missingRecord path) := rfl
        rw [hanswer]
        constructor
        · rintro ⟨⟩
          refine Or.inr (Or.inl ⟨rfl, path.toList, ⟨op, operand, ?_⟩, ?_⟩)
          · rw [hpath]
          · rw [hpath]
        · rintro (⟨⟨⟩, -⟩ | ⟨-, p, ⟨op', operand', hread'⟩, rfl⟩ | ⟨-, digits, ⟨op', ⟨⟩⟩, -⟩)
          cases hread'
          rfl
    | stringTest test needle =>
      simp only [isOnLength_iff, hread]
      cases value <;> simp [Condition.decide]
    | compare op operand => simp [Condition.decide, isOnLength_iff, hread]
    | truth => simp [Condition.decide, isOnLength_iff, hread]

/-- A filter by a condition that has the same answer for every item keeps all or none. -/
theorem filter_of_conditionHolds {o : Options} {record : Option Value}
    (ho : o.expression = some (String.ofList t))
    (h : ∀ value other, conditionHolds t value record = conditionHolds t other record)
    (items : List Value) :
    Step.filter o record (.arr items) = .arr items ∨
      Step.filter o record (.arr items) = .arr [] := by
  have hfilter : Step.filter o record (.arr items) =
      .arr (items.filter fun item => conditionHolds t item record) := by
    simp only [Step.filter, ho, String.toList_ofList]
  rw [hfilter]
  cases hnull : conditionHolds t .null record with
  | true =>
    left
    rw [List.filter_eq_self.2 fun item _ => (h item .null).trans hnull]
  | false =>
    right
    have hnone : ∀ item ∈ items, ¬conditionHolds t item record = true := fun item _ => by
      rw [h item .null, hnull]
      exact Bool.false_ne_true
    rw [List.filter_eq_nil_iff.2 hnone]

/-- **What the answer to a condition depends on, and how it may fail.**  Of the trimmed text of
a condition:

* if it is about the value, the answer is the same for every record and for none;
* if it compares what stands at a path of the record, the answer is the same for every value and
  for every record with the same at the path, so that a filter keeps all items or none, and
  without a record the record is missing;
* any other text is no condition, and does not hold;
* apart from that, an answer is missing only where the length of a string or array is compared
  with digits that are no number of 64 bits. -/
theorem decideCondition_scope (t : List Char) :
    (IsOnValue (trim t) → ∀ value record other,
      decideCondition t value record = decideCondition t value other) ∧
    (∀ path, IsOnRecord path (trim t) →
      (∀ value other record, decideCondition t value record = decideCondition t other record) ∧
      (∀ value r r', r.resolve (String.ofList path) = r'.resolve (String.ofList path) →
        decideCondition t value (some r) = decideCondition t value (some r')) ∧
      (∀ value, decideCondition t value none = .error (.missingRecord (String.ofList path))) ∧
      ∀ (o : Options) record items, o.expression = some (String.ofList t) →
        Step.filter o record (.arr items) = .arr items ∨
          Step.filter o record (.arr items) = .arr []) ∧
    (¬ IsOnValue (trim t) → (∀ path, ¬ IsOnRecord path (trim t)) → ∀ value record,
      decideCondition t value record =
          .error (.unrecognizedCondition (String.ofList (trim t))) ∧
        conditionHolds t value record = false) ∧
    ∀ value record e, decideCondition t value record = .error e ↔
      ((¬ IsOnValue (trim t) ∧ ∀ path, ¬ IsOnRecord path (trim t)) ∧
        e = .unrecognizedCondition (String.ofList (trim t))) ∨
      (record = none ∧ ∃ path, IsOnRecord path (trim t) ∧
        e = .missingRecord (String.ofList path)) ∨
      (((∃ text, value = .str text) ∨ ∃ items, value = .arr items) ∧
        ∃ digits, IsOnLength digits (trim t) ∧ ¬ Fits64 digits ∧
          e = .invalidNumber (String.ofList digits) "length comparison") := by
  refine ⟨?_, ?_, ?_, fun value record e => decideCondition_eq_error_iff⟩
  · intro hvalue value record other
    obtain ⟨condition, hread, hpath⟩ := isOnValue_iff.1 hvalue
    rw [decideCondition_of_read? hread, decideCondition_of_read? hread]
    exact condition.decide_of_recordPath? hpath value record other
  · intro path hrecord
    obtain ⟨op, operand, hread⟩ := isOnRecord_iff.1 hrecord
    have hanswer := decideCondition_of_read? hread
    have hsame (value other : Value) (record : Option Value) :
        decideCondition t value record = decideCondition t other record := by
      rw [hanswer, hanswer]
      rfl
    refine ⟨hsame, ?_, ?_, ?_⟩
    · intro value r r' hresolve
      rw [hanswer, hanswer, Condition.decide, Condition.decide, hresolve]
    · intro value
      rw [hanswer]
      rfl
    · intro o record items ho
      refine filter_of_conditionHolds ho ?_ items
      intro value other
      rw [conditionHolds, hsame value other record, ← conditionHolds]
  · intro hvalue hrecord value record
    have hanswer : decideCondition t value record =
        .error (.unrecognizedCondition (String.ofList (trim t))) :=
      decideCondition_eq_error_iff.2 (Or.inl ⟨⟨hvalue, hrecord⟩, rfl⟩)
    rw [conditionHolds, hanswer]
    exact ⟨rfl, rfl⟩

/-- A comparison of a length with twenty digits. -/
def tooLong : List Char := " value.length >99999999999999999999".toList

/-- A comparison of a field of the record, without any white space. -/
def onTier : List Char := "record.tier===gold".toList

/-- A comparison that says of nothing what it is about. -/
def ofNothing : List Char := "tier == gold".toList

/-- A text of each form, with what the form says of its answer. -/
theorem decideCondition_scope_tier :
    IsOnValue (trim tooLong) ∧
    decideCondition tooLong (.str "a") none = decideCondition tooLong (.str "a") (some .null) ∧
    decideCondition tooLong (.str "a") none =
      .error (.invalidNumber "99999999999999999999" "length comparison") ∧
    IsOnRecord "tier".toList (trim onTier) ∧
    decideCondition onTier .null none = .error (.missingRecord "tier") ∧
    ¬ IsOnValue (trim ofNothing) ∧ (∀ path, ¬ IsOnRecord path (trim ofNothing)) ∧
    decideCondition ofNothing .null none = .error (.unrecognizedCondition "tier == gold") := by
  have hvalue : IsOnValue (trim tooLong) := by
    refine ⟨".length >99999999999999999999".toList, by decide, ?_⟩
    rintro c ⟨⟩
    decide
  have hlength : IsOnLength "99999999999999999999".toList (trim tooLong) :=
    ⟨by decide, List.all_eq_true.1 (by decide), " >99999999999999999999".toList, .greater,
      by decide, " ".toList, [], by decide, by decide, by decide⟩
  have hlarge : ¬ Fits64 "99999999999999999999".toList := fun h => absurd h.2 (by decide)
  have hrecord : IsOnRecord "tier".toList (trim onTier) :=
    ⟨by decide, fun c hc => Or.inl (List.all_eq_true.1 (by decide) c hc), "===gold".toList,
      .strictEqual, "gold".toList, by decide, ⟨[], [], by decide, by decide, by decide⟩,
      by decide, by decide⟩
  have hneither : ¬ IsOnValue (trim ofNothing) ∧ ∀ path, ¬ IsOnRecord path (trim ofNothing) := by
    have hhead : (trim ofNothing).head? = some 't' := by decide
    constructor
    · rintro ⟨rest, h, -⟩
      rw [h] at hhead
      exact absurd hhead (by simp)
    · rintro path ⟨-, -, rest, op, operand, h, -⟩
      rw [h] at hhead
      exact absurd hhead (by simp)
  refine ⟨hvalue, (decideCondition_scope tooLong).1 hvalue _ _ _, ?_, hrecord, ?_, hneither.1,
    hneither.2, ?_⟩
  · exact ((decideCondition_scope tooLong).2.2.2 _ _ _).2
      (Or.inr (Or.inr ⟨Or.inl ⟨"a", rfl⟩, _, hlength, hlarge, by decide⟩))
  · exact ((decideCondition_scope onTier).2.1 _ hrecord).2.2.1 .null
  · exact ((decideCondition_scope ofNothing).2.2.1 hneither.1 hneither.2 .null none).1

end RecordFlow.Formula
