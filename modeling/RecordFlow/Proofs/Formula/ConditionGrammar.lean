import RecordFlow.Formula.Condition
import RecordFlow.Proofs.Text.Scanning

/-!
# The grammar of conditions

What each written form of a condition means.  A comparison of the value, a comparison of what
stands at a path of the record, a test on a string and a comparison of a length are read as such
from their texts, whatever white space stands around the parts, and are answered as the
operators and tests say (`decideCondition_of_written`).

Reading tries its forms in order and its operators in order, so two things have to be seen at
each form.

* **No earlier form applies.**  After the word for the value comes white space or the first
  character of an operator in a comparison, and a point in the other forms.
* **No earlier operator applies.**  Operators are beginnings of one another (`==` and `===`, `>`
  and `>=`), but every longer one goes on in `=`, which does not follow the operator in a
  written comparison (`readComparison?_written`).
-/

namespace RecordFlow.Formula

open Text

/-! ### Written forms -/

/-- **The white space of a written condition:** around the whole, and on the two sides of its
operator.  It is a part of the text, so what holds of a written condition holds however it is
spaced. -/
structure Spacing where
  /-- The white space before the condition. -/
  lead : List Char
  /-- The white space before the operator. -/
  before : List Char
  /-- The white space after the operator. -/
  after : List Char
  /-- The white space after the condition. -/
  trail : List Char
  lead_blank : allBlank lead = true
  before_blank : allBlank before = true
  after_blank : allBlank after = true
  trail_blank : allBlank trail = true

namespace Spacing

/-- A text with the white space around it. -/
def around (g : Spacing) (s : List Char) : List Char :=
  g.lead ++ s ++ g.trail

/-- A comparison as it is written. -/
def comparison (g : Spacing) (subject : List Char) (op : Comparison) (operand : List Char) :
    List Char :=
  g.around (subject ++ g.before ++ op.symbol.toList ++ g.after ++ operand)

end Spacing

/-- A string test as it is written, in single quotes. -/
def StringTest.written (test : StringTest) (needle : List Char) : List Char :=
  "value.".toList ++ test.name.toList ++ "('".toList ++ needle ++ "')".toList

/-- What a string test asks of a text and a needle. -/
def StringTest.Asks : StringTest → List Char → List Char → Prop
  | includes, text, needle => needle <:+: text
  | startsWith, text, needle => needle <+: text
  | endsWith, text, needle => needle <:+ text

instance (test : StringTest) (text needle : List Char) : Decidable (test.Asks text needle) :=
  match test with
  | .includes => inferInstanceAs (Decidable (needle <:+: text))
  | .startsWith => inferInstanceAs (Decidable (needle <+: text))
  | .endsWith => inferInstanceAs (Decidable (needle <:+ text))

theorem StringTest.passes_iff {test : StringTest} {text needle : List Char} :
    test.passes text needle = true ↔ test.Asks text needle := by
  cases test with
  | includes => exact contains_iff
  | startsWith => exact startsWith_iff
  | endsWith => exact endsWith_iff

variable {g : Spacing} {op : Comparison} {c : Char} {s rest operand needle : List Char}

/-! ### The texts that are read -/

theorem Spacing.trim_around (g : Spacing) (s : List Char) : trim (g.around s) = trim s := by
  rw [around, trim_append_of_allBlank g.trail_blank, trim_append_left_of_allBlank g.lead_blank]

/-- Trimming a written comparison trims the end of its operand. -/
theorem Spacing.trim_comparison (g : Spacing) (op : Comparison) {subject : List Char}
    (hc : subject.head? = some c) (hb : isBlank c = false) (ho : allBlank operand = false) :
    trim (g.comparison subject op operand) =
      subject ++ (g.before ++ op.symbol.toList ++ (g.after ++ trimEnd operand)) := by
  obtain ⟨r, rfl⟩ := List.head?_eq_some_iff.1 hc
  rw [comparison, trim_around, trim]
  -- the front stops at the subject, and the end is within the operand, which is not blank
  simp only [List.cons_append, List.append_assoc]
  rw [trimStart_cons_of_not_blank hb]
  simp only [← List.cons_append, ← List.append_assoc]
  rw [trimEnd_append ho]

/-! ### Operators -/

/-- **An operator is read as itself** when what follows it does not begin with `=`. -/
theorem readComparison?_written {accept : List Char → Bool} (hb : allBlank s = true)
    (hc : c ≠ '=') (ha : accept (trimStart (c :: rest)) = true) :
    readComparison? accept (s ++ (op.symbol.toList ++ c :: rest)) =
      some (op, trimStart (c :: rest)) := by
  have hs : trimStart (s ++ (op.symbol.toList ++ c :: rest)) = op.symbol.toList ++ c :: rest := by
    rw [trimStart_append_of_allBlank hb]
    cases op <;> exact trimStart_cons_of_not_blank rfl _
  rw [readComparison?, hs]
  -- the longer operators are tried first, and each would have to go on in `=`
  cases op <;>
    simp [Comparison.all, Comparison.symbol, dropPrefix?, hc.symm, ha]

/-- No operator begins with a point. -/
theorem readComparison?_point (accept : List Char → Bool) (s : List Char) :
    readComparison? accept ('.' :: s) = none := by
  rw [readComparison?, trimStart_cons_of_not_blank rfl]
  simp [Comparison.all, Comparison.symbol, dropPrefix?]

/-! ### Operands -/

/-- The operand that is left of a literal has the same value. -/
theorem literal_operand (ha : allBlank s = true) (operand : List Char) :
    literal (trimStart (s ++ trimEnd operand)) = literal operand := by
  rw [trimStart_append_of_allBlank ha]
  unfold literal
  rw [trim_trimStart_trimEnd]

/-- What is left of a one-line literal is one line. -/
theorem isLine_operand (ha : allBlank s = true) (ho : allBlank operand = false)
    (hline : '\n' ∉ operand) : isLine (trimStart (s ++ trimEnd operand)) = true := by
  rw [trimStart_append_of_allBlank ha, isLine, Bool.and_eq_true]
  constructor
  · rw [Bool.not_eq_true', List.isEmpty_eq_false_iff, Ne, trimStart_eq_nil_iff,
      allBlank_trimEnd, ho]
    exact Bool.false_ne_true
  · rw [List.all_eq_true]
    intro d hd
    have hmem := mem_of_mem_trimEnd (mem_of_mem_trimStart hd)
    exact bne_iff_ne.2 fun he => hline (he ▸ hmem)

/-- A comparison with a literal, after its subject. -/
theorem readComparison?_literal (g : Spacing) (hafter : g.after ≠ [])
    (ho : allBlank operand = false) (hline : '\n' ∉ operand) :
    readComparison? isLine
        (g.before ++ op.symbol.toList ++ (g.after ++ trimEnd operand)) =
      some (op, trimStart (g.after ++ trimEnd operand)) := by
  have hblank := g.after_blank
  -- the white space after the operator keeps the operator from being read on
  obtain ⟨d, r, hd⟩ := List.exists_cons_of_ne_nil hafter
  have hisLine := isLine_operand hblank ho hline
  rw [hd] at hblank hisLine ⊢
  have hdb : isBlank d = true := allBlank_iff.1 hblank d List.mem_cons_self
  rw [List.append_assoc]
  exact readComparison?_written g.before_blank (ne_of_isBlank hdb (by decide)) hisLine

/-! ### Reading each form -/

theorem read?_of_value (h : trim s = "value".toList ++ rest) :
    Condition.read? s = readOnValue? rest := by
  unfold Condition.read?
  rw [h]
  simp only [dropPrefix?_append]

theorem read?_of_record (h : trim s = "record.".toList ++ rest) :
    Condition.read? s = readOnRecord? rest := by
  have hvalue : dropPrefix? "value".toList ("record.".toList ++ rest) = none := by
    simp [dropPrefix?]
  unfold Condition.read?
  rw [h]
  simp only [hvalue, dropPrefix?_append, Option.bind_some]

/-- A comparison of the value. -/
theorem read?_compare (g : Spacing) (op : Comparison) (hafter : g.after ≠ [])
    (ho : allBlank operand = false) (hline : '\n' ∉ operand) :
    Condition.read? (g.comparison "value".toList op operand) =
      some (.compare op (literal operand)) := by
  have hhead : "value".toList.head? = some 'v' := by simp
  have htrim := g.trim_comparison op hhead rfl ho
  rw [read?_of_value htrim, readOnValue?, readComparison?_literal g hafter ho hline]
  simp only [literal_operand g.after_blank]

/-- What stands between a path and an operand is no part of the path. -/
theorem isPathChar_of_mem_gap (hb : allBlank s = true) (h : c ∈ s ++ op.symbol.toList) :
    isPathChar c = false := by
  rcases List.mem_append.1 h with h | h
  · have hblank := allBlank_iff.1 hb c h
    have hpoint : c ≠ '.' := by
      rintro rfl
      exact absurd hblank (by decide)
    rw [isPathChar, isWord_of_isBlank hblank, Bool.false_or]
    exact beq_false_of_ne hpoint
  · cases op <;> simp [Comparison.symbol] at h <;> rcases h with rfl | rfl <;> rfl

/-- A path ends where the gap before the operand begins. -/
theorem span_path {path gap : List Char} (hpath : ∀ c ∈ path, isPathChar c = true)
    (hgap : ∀ c ∈ gap, isPathChar c = false) (hne : gap ≠ []) (rest : List Char) :
    (path ++ (gap ++ rest)).takeWhile isPathChar = path ∧
      (path ++ (gap ++ rest)).dropWhile isPathChar = gap ++ rest := by
  obtain ⟨d, r, rfl⟩ := List.exists_cons_of_ne_nil hne
  refine span_append hpath ?_
  rintro e ⟨⟩
  exact hgap d List.mem_cons_self

/-- A comparison of what stands at a path of the record. -/
theorem read?_compareRecord (g : Spacing) (op : Comparison) {path : List Char}
    (hafter : g.after ≠ []) (hne : path ≠ []) (hpath : ∀ c ∈ path, isPathChar c = true)
    (ho : allBlank operand = false) (hline : '\n' ∉ operand) :
    Condition.read? (g.comparison ("record.".toList ++ path) op operand) =
      some (.compareRecord (String.ofList path) op (literal operand)) := by
  have hhead : ("record.".toList ++ path).head? = some 'r' := by simp
  have htrim := g.trim_comparison op hhead rfl ho
  rw [List.append_assoc] at htrim
  have hgap : g.before ++ op.symbol.toList ≠ [] := by
    cases op <;> simp [Comparison.symbol]
  obtain ⟨htake, hdrop⟩ := span_path hpath
    (fun c hc => isPathChar_of_mem_gap g.before_blank hc) hgap (g.after ++ trimEnd operand)
  obtain ⟨d, r, rfl⟩ := List.exists_cons_of_ne_nil hne
  rw [read?_of_record htrim, readOnRecord?, htake, hdrop,
    readComparison?_literal g hafter ho hline]
  simp only [Option.map_some, literal_operand g.after_blank]

/-- What stands in quotes before the closing parenthesis is the needle, whatever it holds. -/
theorem quotedArgument?_quoted (hline : '\n' ∉ needle) :
    quotedArgument? ('\'' :: (needle ++ ['\'', ')'])) = some needle := by
  have hsplit : '\'' :: (needle ++ ['\'', ')']) = ('\'' :: needle ++ ['\'']) ++ [')'] := by simp
  have htrim : trim ('\'' :: needle ++ ['\'']) = '\'' :: needle ++ ['\''] :=
    trim_eq_self (c := '\'') (d := '\'') rfl rfl List.getLast?_concat rfl
  have hall : needle.all (· != '\n') = true := by
    rw [List.all_eq_true]
    intro c hc
    exact bne_iff_ne.2 fun he => hline (he ▸ hc)
  rw [quotedArgument?, hsplit, List.getLast?_concat, if_pos rfl, List.dropLast_concat, htrim]
  simp [hall, isQuote]

/-- The letter that the name of a string test begins with. -/
def StringTest.initial : StringTest → Char
  | includes => 'i'
  | startsWith => 's'
  | endsWith => 'e'

theorem StringTest.exists_name (test : StringTest) :
    ∃ more, test.name.toList = test.initial :: more := by
  refine ⟨test.name.toList.tail, ?_⟩
  cases test <;> decide +kernel

/-- The name of a string test and its opening parenthesis. -/
theorem StringTest.toList_call (test : StringTest) :
    (test.name ++ "(").toList = test.name.toList ++ ['('] := by
  rw [String.toList_append]
  exact congrArg _ (by decide)

/-- A string test is not read where another letter stands. -/
theorem dropPrefix?_call_of_ne {test : StringTest} (h : test.initial ≠ c) (s : List Char) :
    dropPrefix? (test.name ++ "(").toList (c :: s) = none := by
  obtain ⟨more, hmore⟩ := test.exists_name
  rw [test.toList_call, hmore, List.cons_append, dropPrefix?, if_neg h]

/-- **A string test is read as itself** when a quoted needle follows its name. -/
theorem readStringTest?_written (test : StringTest) (h : quotedArgument? rest = some needle) :
    readStringTest? (test.name.toList ++ '(' :: rest) = some (test, needle) := by
  have hself : dropPrefix? (test.name ++ "(").toList (test.name.toList ++ '(' :: rest) =
      some rest := by
    rw [test.toList_call, List.append_cons _ '(' rest]
    exact dropPrefix?_append _ _
  have hother : ∀ other : StringTest, other.initial ≠ test.initial →
      dropPrefix? (other.name ++ "(").toList (test.name.toList ++ '(' :: rest) = none := by
    intro other hne
    obtain ⟨more, hmore⟩ := test.exists_name
    rw [hmore]
    exact dropPrefix?_call_of_ne hne _
  rw [readStringTest?, StringTest.all]
  -- the letters of the name have done their part, and would be compared again below
  generalize test.name.toList ++ '(' :: rest = s at *
  cases test with
  | includes => rw [List.findSome?_cons, hself, Option.bind_some, h, Option.map_some]
  | startsWith =>
    rw [List.findSome?_cons, hother .includes (by decide), List.findSome?_cons, hself,
      Option.bind_none, Option.bind_some, h, Option.map_some]
  | endsWith =>
    rw [List.findSome?_cons, hother .includes (by decide), List.findSome?_cons,
      hother .startsWith (by decide), List.findSome?_cons, hself, Option.bind_none,
      Option.bind_some, h, Option.map_some, Option.bind_none]

/-- No string test is read where none of their letters stands. -/
theorem readStringTest?_eq_none (h : ∀ test : StringTest, test.initial ≠ c) (s : List Char) :
    readStringTest? (c :: s) = none := by
  rw [readStringTest?, List.findSome?_eq_none_iff]
  intro test _
  rw [dropPrefix?_call_of_ne (h test), Option.bind_none]

/-- After the word for the value and a point, a string test is read. -/
theorem readOnValue?_stringTest {test : StringTest}
    (h : readStringTest? rest = some (test, needle)) :
    readOnValue? ('.' :: rest) = some (.stringTest test needle) := by
  rw [readOnValue?, readComparison?_point]
  simp [dropPrefix?, h]

/-- After the word for the value and its length, a comparison with digits is read. -/
theorem readOnValue?_lengthTest {digits : List Char}
    (h : readComparison? isDigitRow rest = some (op, digits)) :
    readOnValue? ('.' :: ("length".toList ++ rest)) = some (.lengthTest op digits) := by
  have hnone : readStringTest? ("length".toList ++ rest) = none := by
    have hletters : "length".toList = 'l' :: "ength".toList := by simp
    rw [hletters, List.cons_append]
    exact readStringTest?_eq_none (fun test => by cases test <;> decide) _
  have hword : ".length".toList = '.' :: "length".toList := by simp
  rw [readOnValue?, readComparison?_point, hword]
  simp only [dropPrefix?, if_true, Option.bind_some, hnone, dropPrefix?_append, h]

/-- The parts of a written string test. -/
theorem StringTest.written_eq (test : StringTest) (needle : List Char) :
    test.written needle =
      "value".toList ++ '.' :: (test.name.toList ++ '(' :: '\'' :: (needle ++ ['\'', ')'])) := by
  unfold written
  generalize test.name.toList = name
  simp

/-- A test on a string. -/
theorem read?_stringTest (g : Spacing) (test : StringTest) (hline : '\n' ∉ needle) :
    Condition.read? (g.around (test.written needle)) = some (.stringTest test needle) := by
  have htrim : trim (g.around (test.written needle)) = test.written needle := by
    rw [g.trim_around, test.written_eq]
    generalize test.name.toList = name
    refine trim_eq_self (c := 'v') (d := ')') ?_ rfl ?_ rfl
    · simp
    · simp [List.getLast?_cons, List.getLast?_append]
  rw [read?_of_value (htrim.trans (test.written_eq needle))]
  exact readOnValue?_stringTest (readStringTest?_written test (quotedArgument?_quoted hline))

/-- A row of digits is read as itself after white space. -/
theorem readComparison?_digits {before after digits : List Char}
    (hbefore : allBlank before = true) (hafter : allBlank after = true) (hne : digits ≠ [])
    (hd : ∀ c ∈ digits, isDecimalDigit c = true) :
    readComparison? isDigitRow (before ++ op.symbol.toList ++ (after ++ digits)) =
      some (op, digits) := by
  obtain ⟨e, r, rfl⟩ := List.exists_cons_of_ne_nil hne
  have he : isDecimalDigit e = true := hd e List.mem_cons_self
  have hoperand : trimStart (after ++ e :: r) = e :: r := by
    rw [trimStart_append_of_allBlank hafter,
      trimStart_cons_of_not_blank (isBlank_of_isDecimalDigit he)]
  have hrow : isDigitRow (e :: r) = true := by
    rw [isDigitRow, Bool.and_eq_true, List.all_eq_true]
    exact ⟨rfl, hd⟩
  rw [List.append_assoc]
  -- neither white space nor a digit is `=`
  obtain ⟨d, more, hmore, hne⟩ : ∃ d more, after ++ e :: r = d :: more ∧ d ≠ '=' := by
    cases after with
    | nil =>
      refine ⟨e, r, rfl, ?_⟩
      rintro rfl
      exact absurd he (by decide)
    | cons d more =>
      have hblank := allBlank_iff.1 hafter d List.mem_cons_self
      exact ⟨d, more ++ e :: r, rfl, ne_of_isBlank hblank (by decide)⟩
  rw [hmore] at hoperand ⊢
  rw [readComparison?_written hbefore hne (by rw [hoperand, hrow]), hoperand]

/-- A comparison of a length. -/
theorem read?_lengthTest (g : Spacing) (op : Comparison) {digits : List Char}
    (hne : digits ≠ []) (hd : ∀ c ∈ digits, isAsciiDigit c = true) :
    Condition.read? (g.comparison "value.length".toList op digits) =
      some (.lengthTest op digits) := by
  have hdecimal : ∀ c ∈ digits, isDecimalDigit c = true := fun c hc =>
    isDecimalDigit_of_isAsciiDigit (hd c hc)
  have hb : ∀ c ∈ digits, isBlank c = false := fun c hc =>
    isBlank_of_isDecimalDigit (hdecimal c hc)
  obtain ⟨e, he⟩ := List.exists_mem_of_ne_nil digits hne
  have hhead : "value.length".toList.head? = some 'v' := by simp
  have htrim := g.trim_comparison op hhead rfl (allBlank_eq_false_of_mem he (hb e he))
  have hsubject : "value.length".toList = "value".toList ++ '.' :: "length".toList := by simp
  rw [trimEnd_of_forall hb, hsubject, List.append_assoc, List.cons_append] at htrim
  rw [hsubject, read?_of_value htrim]
  exact readOnValue?_lengthTest
    (readComparison?_digits g.before_blank g.after_blank hne hdecimal)

/-! ### Answers -/

theorem decideCondition_of_read? {t : List Char} {condition : Condition}
    (h : Condition.read? t = some condition) (value : Value) (record : Option Value) :
    decideCondition t value record = condition.decide value record := by
  rw [decideCondition, h]

/-- The digits of a condition are read as the number they spell. -/
theorem readNat?_digits {digits : List Char} (hne : digits ≠ [])
    (hd : ∀ c ∈ digits, isAsciiDigit c = true) (hmax : digitsValue digits < 2 ^ 64) :
    (readNat? digits).filter (· < 2 ^ 64) = some (digitsValue digits) := by
  have hall : digits.all isAsciiDigit = true := List.all_eq_true.2 hd
  rw [readNat?, List.isEmpty_eq_false_iff.2 hne, hall]
  exact Option.filter_some_pos (decide_eq_true hmax)

/-- **The answer to each written form of condition.**  With white space anywhere around a
condition and around its operator:

* a comparison of the value, or of what stands at a path of the record, with a one-line literal
  is answered by the operator;
* a test of a string for a one-line needle, whatever quotes and parentheses the needle holds, is
  answered by where the needle occurs;
* a comparison of a length with an ASCII numeral of at most 64 bits is answered by the operator
  on the length;
* the last two ask of a value of another kind whether it counts as true. -/
theorem decideCondition_of_written (g : Spacing) (value : Value) (record : Option Value) :
    (∀ (op : Comparison) (operand : List Char), g.after ≠ [] → allBlank operand = false →
      '\n' ∉ operand →
        decideCondition (g.comparison "value".toList op operand) value record =
          .ok (op.holds value (literal operand))) ∧
    (∀ (op : Comparison) (path operand : List Char) (r : Value), g.after ≠ [] → path ≠ [] →
      (∀ c ∈ path, isWord c = true ∨ c = '.') → allBlank operand = false → '\n' ∉ operand →
        decideCondition (g.comparison ("record.".toList ++ path) op operand) value (some r) =
          .ok (op.holds (r.resolve (String.ofList path)) (literal operand))) ∧
    (∀ (test : StringTest) (needle : List Char), '\n' ∉ needle →
      decideCondition (g.around (test.written needle)) value record =
        .ok (match value with
          | .str text => Decidable.decide (test.Asks text.toList needle)
          | v => v.isTruthy)) ∧
    (∀ (op : Comparison) (digits : List Char), digits ≠ [] →
      (∀ c ∈ digits, isAsciiDigit c = true) → digitsValue digits < 2 ^ 64 →
        decideCondition (g.comparison "value.length".toList op digits) value record =
          .ok (match value with
            | .str text => op.holds (.int text.length) (.int (digitsValue digits))
            | .arr items => op.holds (.int items.length) (.int (digitsValue digits))
            | v => v.isTruthy)) := by
  refine ⟨?_, ?_, ?_, ?_⟩
  · intro op operand hafter ho hline
    rw [decideCondition_of_read? (read?_compare g op hafter ho hline)]
    rfl
  · intro op path operand r hafter hne hpath ho hline
    have hchars : ∀ c ∈ path, isPathChar c = true := by
      intro c hc
      rw [isPathChar, Bool.or_eq_true, beq_iff_eq]
      exact hpath c hc
    rw [decideCondition_of_read? (read?_compareRecord g op hafter hne hchars ho hline)]
    rfl
  · intro test needle hline
    rw [decideCondition_of_read? (read?_stringTest g test hline)]
    -- only a string is searched
    cases value with
    | str text =>
      show Except.ok (test.passes text.toList needle) = _
      rw [Bool.eq_iff_iff.2 (test.passes_iff.trans decide_eq_true_iff.symm)]
    | _ => rfl
  · intro op digits hne hd hmax
    rw [decideCondition_of_read? (read?_lengthTest g op hne hd)]
    cases value with
    | str text => simp only [Condition.decide, lengthOf?, readNat?_digits hne hd hmax]
    | arr items => simp only [Condition.decide, lengthOf?, readNat?_digits hne hd hmax]
    | _ => rfl

/-- White space in every place where a condition may have it. -/
def looseSpacing : Spacing where
  lead := [' ']
  before := ['\t']
  after := [' ', '\n']
  trail := ['\r', '\n']
  lead_blank := rfl
  before_blank := rfl
  after_blank := rfl
  trail_blank := rfl

/-- One condition of each form, answered. -/
theorem decideCondition_of_written_gold :
    decideCondition (looseSpacing.comparison "value".toList .strictEqual
      ['\'', 'g', 'o', 'l', 'd', '\'']) (.str "gold") none = .ok true ∧
    decideCondition (looseSpacing.comparison ("record.".toList ++ ['t', 'i', 'e', 'r']) .notEqual
      ['g', 'o', 'l', 'd']) .null (some (.obj [("tier", .str "gold")])) = .ok false ∧
    decideCondition (looseSpacing.around (StringTest.includes.written ['\'', ')']))
      (.str "('a')") none = .ok true ∧
    decideCondition (looseSpacing.comparison "value.length".toList .greater ['0', '2'])
      (.arr [.null, .null, .null]) none = .ok true := by
  have hpath : ∀ c ∈ ['t', 'i', 'e', 'r'], isWord c = true ∨ c = '.' := by
    have hall : ['t', 'i', 'e', 'r'].all isWord = true := by decide +kernel
    intro c hc
    exact Or.inl (List.all_eq_true.1 hall c hc)
  have hdigits : ['0', '2'].all isAsciiDigit = true := by decide
  refine ⟨?_, ?_, ?_, ?_⟩
  · rw [(decideCondition_of_written looseSpacing (.str "gold") none).1 .strictEqual
      ['\'', 'g', 'o', 'l', 'd', '\''] (by decide) (by decide) (by decide +kernel)]
    exact congrArg Except.ok (by decide +kernel)
  · rw [(decideCondition_of_written looseSpacing .null none).2.1 .notEqual ['t', 'i', 'e', 'r']
      ['g', 'o', 'l', 'd'] (.obj [("tier", .str "gold")]) (by decide) (by decide) hpath
      (by decide) (by decide)]
    exact congrArg Except.ok (by decide +kernel)
  · rw [(decideCondition_of_written looseSpacing (.str "('a')") none).2.2.1 .includes
      ['\'', ')'] (by decide +kernel)]
    exact congrArg Except.ok (by decide +kernel)
  · rw [(decideCondition_of_written looseSpacing (.arr [.null, .null, .null]) none).2.2.2
      .greater ['0', '2'] (by decide) (List.all_eq_true.1 hdigits) (by decide)]
    exact congrArg Except.ok (by decide +kernel)

end RecordFlow.Formula
