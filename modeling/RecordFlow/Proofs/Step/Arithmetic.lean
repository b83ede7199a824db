import RecordFlow.Proofs.Formula.SplitAndJoin
import RecordFlow.Proofs.Formula.Ternaries
import RecordFlow.Proofs.Number.Arithmetic
import RecordFlow.Proofs.Step.NumberReaders

/-!
# Arithmetic in expressions and in steps

An expression has the operand of its arithmetic in its text, and a step has it among its
options.  Both compute the same (`expressionValue_arithmetic`): the expression is read as it is
written, whatever the sign of its operand and the white space around its operator, and the
operand is the number nearest to the numeral.

There is no result where the operand is a zero that is divided by, however the zero is spelled,
and where the exact result is beyond the limit of finite numbers (`ArithmeticOp.apply_eq_null`).
An expression of this form means nothing for a value that is no number: it has no method of
strings or arrays, no question mark, and no dollar sign.

## Main definitions

* `ArithmeticOp.symbol`, `ArithmeticOp.operation` — the character of an operator in an
  expression, and its operation as that of a step.
* `ArithmeticOp.exact` — the operation on rational numbers.
* `ArithmeticOp.inner`, `ArithmeticOp.written` — the text of an expression with an operator,
  without and with the white space around it.
-/

namespace RecordFlow

open Text

/-- A row of zeros spells zero. -/
theorem digitsValue_eq_zero {s : List Char} (h : ∀ c ∈ s, c = '0') : digitsValue s = 0 := by
  rw [List.eq_replicate_of_mem h, Calendar.digitsValue_eq_ofDigitChars,
    Nat.ofDigitChars_replicate_zero, Nat.mul_zero]

namespace Formula

variable {g : Spacing} {op : ArithmeticOp} {numeral : List Char} {x y : Binary64} {c : Char}

/-! ### Operators -/

namespace ArithmeticOp

/-- The character of an operator. -/
def symbol : ArithmeticOp → Char
  | plus => '+'
  | minus => '-'
  | times => '*'
  | divide => '/'

theorem ofChar?_symbol (op : ArithmeticOp) : ofChar? op.symbol = some op := by
  cases op <;> rfl

/-- No operator is white space, or begins a method. -/
theorem symbol_plain (op : ArithmeticOp) :
    isBlank op.symbol = false ∧ op.symbol ≠ '.' ∧ op.symbol ≠ '[' := by
  cases op <;> decide

/-- The operation of a step that an operator stands for. -/
def operation : ArithmeticOp → MathOperation
  | plus => .add
  | minus => .subtract
  | times => .multiply
  | divide => .divide

theorem apply_eq (op : ArithmeticOp) (x y : Binary64) : op.apply x y = op.operation.apply x y := by
  cases op <;> rfl

/-- **The operation on rational numbers.**  The step computes in floating point with a single
rounding, and this is what is rounded. -/
def exact : ArithmeticOp → ℚ → ℚ → ℚ
  | plus, q, r => q + r
  | minus, q, r => q - r
  | times, q, r => q * r
  | divide, q, r => q / r

/-- **A result beyond the limit of finite numbers is none.** -/
theorem apply_eq_null (hx : x.isFinite = true) (hy : y.isFinite = true)
    (hlarge : (Binary64.overflowBound : ℚ) ≤ |op.exact x.toRat y.toRat|) :
    op.apply x y = .null := by
  have hnull {z : Binary64} {q : ℚ} (hrounded : z.IsRounded q)
      (hq : (Binary64.overflowBound : ℚ) ≤ |q|) : Value.ofBinary64 z = .null :=
    Value.ofBinary64_eq_null fun hfinite => (hrounded.isFinite_iff.1 hfinite).not_ge hq
  cases op with
  | plus => exact hnull (Binary64.isRounded_add hx hy) hlarge
  | minus => exact hnull (Binary64.isRounded_sub hx hy) hlarge
  | times => exact hnull (Binary64.isRounded_mul hx hy) hlarge
  | divide =>
    cases hzero : y.isZero with
    | true => rw [apply, hzero, if_pos rfl]
    | false =>
      rw [apply, hzero, if_neg Bool.false_ne_true]
      exact hnull (Binary64.isRounded_div hx hy (Binary64.toRat_ne_zero hy hzero)) hlarge

/-- So is any but a quotient with what is not finite. -/
theorem apply_eq_null_of_not_isFinite (hy : ¬ y.isFinite = true) (hop : op ≠ divide) :
    op.apply x y = .null := by
  cases op with
  | plus => exact Value.ofBinary64_eq_null fun h => hy (Binary64.isFinite_of_add h).2
  | minus =>
    refine Value.ofBinary64_eq_null fun h => hy ?_
    exact (Binary64.isFinite_neg y).symm.trans (Binary64.isFinite_of_add h).2
  | times => exact Value.ofBinary64_eq_null fun h => hy (Binary64.isFinite_of_mul h).2
  | divide => exact absurd rfl hop

end ArithmeticOp

/-! ### Operands -/

/-- A plain numeral has a value, the number nearest to it. -/
theorem IsPlainNumeral.exists_readNumber? (h : IsPlainNumeral numeral) :
    ∃ x, readNumber? numeral = some x := by
  obtain ⟨sp, -, hin, htext⟩ := h
  exact ⟨_, readNumber?_eq_some_iff.2 ⟨sp, hin, htext, rfl⟩⟩

/-- **A numeral without other digits than zeros spells a zero.** -/
theorem isZero_of_zeros (hread : readNumber? numeral = some x)
    (hzeros : ∀ c ∈ numeral, isAsciiDigit c = true → c = '0') : x.isZero = true := by
  obtain ⟨sp, hin, rfl, rfl⟩ := readNumber?_eq_some_iff.1 hread
  have hdigits : ∀ c ∈ sp.whole ++ sp.fraction.getD [], c = '0' := by
    intro c hc
    rcases List.mem_append.1 hc with hc | hc
    · refine hzeros c ?_ (hin.whole c hc)
      rw [Numeral.Spelling.text, List.mem_append, List.mem_append]
      exact Or.inr (Or.inl hc)
    · refine hzeros c ?_ (hin.fraction c hc)
      cases hfraction : sp.fraction with
      | none =>
        rw [hfraction] at hc
        cases hc
      | some fraction =>
        rw [hfraction] at hc
        rw [Numeral.Spelling.text, hfraction]
        simp only [Numeral.fractionText, List.mem_append, List.mem_cons]
        exact Or.inr (Or.inr (Or.inl (Or.inr hc)))
  have hvalue : digitsValue (sp.numeral.whole ++ sp.numeral.fraction) = 0 :=
    digitsValue_eq_zero hdigits
  rw [Numeral.nearest, hvalue, Binary64.ofDecimal, if_pos rfl]
  rfl

/-! ### Expressions with an operator -/

/-- The text of an expression with an operator, without the white space around it. -/
def ArithmeticOp.inner (op : ArithmeticOp) (g : Spacing) (numeral : List Char) : List Char :=
  "value".toList ++ (g.before ++ op.symbol :: (g.after ++ numeral))

/-- **The text of an expression with an operator,** with its white space. -/
def ArithmeticOp.written (op : ArithmeticOp) (g : Spacing) (numeral : List Char) : List Char :=
  g.around (op.inner g numeral)

section Written

variable (hnumeral : IsPlainNumeral numeral)
include hnumeral

/-- Only the white space around the whole is trimmed. -/
theorem trim_written_arithmetic (g : Spacing) (op : ArithmeticOp) :
    trim (op.written g numeral) = op.inner g numeral := by
  obtain ⟨x, hread⟩ := hnumeral.exists_readNumber?
  have hspells := readNumber?_eq_some_iff.1 hread
  have hlast := List.getLast?_eq_some_getLast hspells.ne_nil
  rw [ArithmeticOp.written, ArithmeticOp.inner, g.trim_around]
  refine trim_eq_self (c := 'v') ?_ rfl (d := numeral.getLast hspells.ne_nil) ?_
    (hspells.not_isBlank (List.getLast_mem _))
  · simp
  · rw [List.getLast?_append, List.getLast?_append, List.getLast?_cons, List.getLast?_append, hlast]
    rfl

/-- **The operator and the operand are read as they are written.** -/
theorem Arithmetic.read?_written (g : Spacing) (op : ArithmeticOp) :
    Arithmetic.read? (op.inner g numeral) = some ⟨op, numeral⟩ := by
  obtain ⟨x, hread⟩ := hnumeral.exists_readNumber?
  have hspells := readNumber?_eq_some_iff.1 hread
  have hoperator : trimStart (g.before ++ op.symbol :: (g.after ++ numeral)) =
      op.symbol :: (g.after ++ numeral) := by
    rw [trimStart_append_of_allBlank g.before_blank, trimStart_cons_of_not_blank op.symbol_plain.1]
  have hoperand : trimStart (g.after ++ numeral) = numeral := by
    rw [trimStart_append_of_allBlank g.after_blank,
      trimStart_of_forall fun c hc => hspells.not_isBlank hc]
  have hplain : isPlainNumeral isDecimalDigit numeral = true := by
    obtain ⟨sp, hplain, hin, htext⟩ := hnumeral
    exact (Numeral.isPlainNumeral_iff Numeral.setsOffMarks_isDecimalDigit).2
      ⟨sp, hplain, hin.mono fun _ => isDecimalDigit_of_isAsciiDigit, htext⟩
  rw [Arithmetic.read?, ArithmeticOp.inner, dropPrefix?_append, Option.bind_some, hoperator]
  simp only [op.ofChar?_symbol, Option.bind_some, hoperand, hplain, if_true]

/-- **Nothing comes before the form of the value's own kind.** -/
theorem computeExpression_arithmetic (g : Spacing) (op : ArithmeticOp) (v : Value)
    (record : Option Value) :
    computeExpression (op.written g numeral) v record =
      (computeByKind (op.inner g numeral) v).map
        (·.getD (computeGeneral (op.inner g numeral) v record)) := by
  have hvalue : op.inner g numeral ≠ "value".toList := by
    rw [ArithmeticOp.inner]
    simp
  have hpath : readRecordPath? (op.inner g numeral) = none := by
    unfold readRecordPath?
    rfl
  exact computeExpression_eq (trim_written_arithmetic hnumeral g op) hvalue hpath record

/-- What the text is made of. -/
theorem notMem_inner (hword : c ∉ "value".toList) (hblank : isBlank c = false)
    (hsymbol : c ≠ op.symbol) (hdigit : isAsciiDigit c = false) (hmark : c ∉ Numeral.marks) :
    c ∉ op.inner g numeral := by
  obtain ⟨x, hread⟩ := hnumeral.exists_readNumber?
  have hspells := readNumber?_eq_some_iff.1 hread
  rw [ArithmeticOp.inner]
  simp only [List.mem_append, List.mem_cons, not_or]
  exact ⟨hword, notMem_of_allBlank g.before_blank hblank, hsymbol,
    notMem_of_allBlank g.after_blank hblank, hspells.notMem hdigit hmark⟩

/-- **On a number the operation is computed.** -/
theorem expressionValue_number (hread : readNumber? numeral = some x) (g : Spacing)
    (op : ArithmeticOp) (n : Number) (record : Option Value) :
    expressionValue (op.written g numeral) (.num n) record = op.apply n.toBinary64 x := by
  rw [expressionValue, computeExpression_arithmetic hnumeral, computeByKind,
    Arithmetic.read?_written hnumeral]
  simp only [Arithmetic.apply, hread]
  rfl

end Written

/-! ### Other values -/

/-- Between the word for the value and the operand there is no point, and no bracket. -/
theorem exists_gap_eq_cons (g : Spacing) (op : ArithmeticOp) (s : List Char) :
    ∃ d rest, g.before ++ op.symbol :: s = d :: rest ∧ d ≠ '.' ∧ d ≠ '[' := by
  cases hgap : g.before with
  | nil => exact ⟨op.symbol, s, rfl, op.symbol_plain.2⟩
  | cons d gap =>
    have hblank : isBlank d = true :=
      allBlank_iff.1 g.before_blank d (hgap.symm ▸ List.mem_cons_self)
    exact ⟨d, gap ++ op.symbol :: s, rfl, ne_of_isBlank hblank (by decide),
      ne_of_isBlank hblank (by decide)⟩

/-- No method of a string begins like this. -/
theorem StringMethod.read?_of_ne_point {d : Char} (hd : d ≠ '.') (rest : List Char) :
    StringMethod.read? ("value".toList ++ d :: rest) = none := by
  have hsubstring : dropPrefix? "value.substring(".toList ("value".toList ++ d :: rest) = none := by
    simp [dropPrefix?, hd.symm]
  have hsplit : dropPrefix? "value.split(".toList ("value".toList ++ d :: rest) = none := by
    simp [dropPrefix?, hd.symm]
  rw [StringMethod.read?, hsubstring, hsplit, if_neg (by simp [hd]), if_neg (by simp [hd]),
    if_neg (by simp [hd]), if_neg (by simp [hd])]
  rfl

/-- Nor does one of an array. -/
theorem ArrayMethod.read?_of_ne_point {d : Char} (hd : d ≠ '.') (hbracket : d ≠ '[')
    (rest : List Char) : ArrayMethod.read? ("value".toList ++ d :: rest) = none := by
  have hindex : dropPrefix? "value[".toList ("value".toList ++ d :: rest) = none := by
    simp [dropPrefix?, hbracket.symm]
  have hjoin : dropPrefix? "value.join(".toList ("value".toList ++ d :: rest) = none := by
    simp [dropPrefix?, hd.symm]
  rw [ArrayMethod.read?, hindex, hjoin, if_neg (by simp [hd])]
  rfl

section Written

variable (hnumeral : IsPlainNumeral numeral)
include hnumeral

/-- The text is no ternary and no template. -/
theorem computeGeneral_inner (g : Spacing) (op : ArithmeticOp) (v : Value) (record : Option Value) :
    computeGeneral (op.inner g numeral) v record = v := by
  have hquestion : '?' ∉ op.inner g numeral := by
    refine notMem_inner hnumeral (by decide) (by decide) ?_ (by decide) (by decide)
    cases op <;> decide
  have hdollar : '$' ∉ op.inner g numeral := by
    refine notMem_inner hnumeral (by decide) (by decide) ?_ (by decide) (by decide)
    cases op <;> decide
  have htemplate : contains (op.inner g numeral) ['$', '\x7b'] = false := by
    rw [Bool.eq_false_iff, Ne, contains_iff]
    exact fun hwithin => hdollar (hwithin.subset List.mem_cons_self)
  unfold computeGeneral
  rw [Ternary.read?_eq_none hquestion]
  cases record with
  | none => rfl
  | some r => simp only [htemplate, Bool.false_eq_true, if_false]

/-- **A value that is no number is left as it is.** -/
theorem expressionValue_other (g : Spacing) (op : ArithmeticOp) {v : Value}
    (hv : ∀ n, v ≠ .num n) (record : Option Value) :
    expressionValue (op.written g numeral) v record = v := by
  obtain ⟨d, rest, hcons, hpoint, hbracket⟩ := exists_gap_eq_cons g op (g.after ++ numeral)
  have hinner : op.inner g numeral = "value".toList ++ d :: rest := by
    rw [ArithmeticOp.inner, hcons]
  have hkind : computeByKind (op.inner g numeral) v = .ok none := by
    rw [hinner]
    cases v with
    | null => rfl
    | bool b => rfl
    | num n => exact absurd rfl (hv n)
    | str s => rw [computeByKind, StringMethod.read?_of_ne_point hpoint]
    | arr items =>
      rw [computeByKind, ArrayMethod.read?_of_ne_point hpoint hbracket, Option.map_none]
    | obj fields => rfl
  rw [expressionValue, computeExpression_arithmetic hnumeral, hkind]
  simp only [Except.map, Option.getD_none, computeGeneral_inner hnumeral g op v record]

end Written

/-! ### Expressions and steps -/

/-- **Arithmetic in an expression is that of a step.**  Let the operand be spelled by a plain
numeral, with any white space in the expression.  Then there is a number that it spells, and on
every number the expression gives what the step gives with this operand and the operation of the
operator.

* Nothing is divided by a numeral that has no other digits than zeros.
* There is no result if the exact one is beyond the limit of finite numbers, or if the operand
  is, unless something is divided by it.
* A value that is no number is left as it is. -/
theorem expressionValue_arithmetic (hnumeral : IsPlainNumeral numeral) (g : Spacing)
    (op : ArithmeticOp) (record : Option Value) :
    ∃ x, readNumber? numeral = some x ∧
      (∀ (n : Number) (o : Options), o.operation = some op.operation → o.operand = some x →
        expressionValue (op.written g numeral) (.num n) record = Step.math o (.num n)) ∧
      (op = .divide → (∀ c ∈ numeral, isAsciiDigit c = true → c = '0') → ∀ n : Number,
        expressionValue (op.written g numeral) (.num n) record = .null) ∧
      (∀ n : Number, n.toBinary64.isFinite = true → x.isFinite = true →
        Binary64.overflowBound ≤ |op.exact n.toBinary64.toRat x.toRat| →
        expressionValue (op.written g numeral) (.num n) record = .null) ∧
      (¬ x.isFinite = true → op ≠ .divide → ∀ n : Number,
        expressionValue (op.written g numeral) (.num n) record = .null) ∧
      ∀ v : Value, (∀ n, v ≠ .num n) → expressionValue (op.written g numeral) v record = v := by
  obtain ⟨x, hread⟩ := hnumeral.exists_readNumber?
  have hnumber (n : Number) := expressionValue_number hnumeral hread g op n record
  refine ⟨x, hread, ?_, ?_, ?_, ?_, fun v hv => expressionValue_other hnumeral g op hv record⟩
  · intro n o hoperation hoperand
    rw [hnumber, op.apply_eq]
    simp only [Step.math, hoperation, hoperand, Value.toNumber?]
  · rintro rfl hzeros n
    rw [hnumber, ArithmeticOp.apply, isZero_of_zeros hread hzeros, if_pos rfl]
  · intro n hn hx hlarge
    rw [hnumber, op.apply_eq_null hn hx hlarge]
  · intro hx hop n
    rw [hnumber, op.apply_eq_null_of_not_isFinite hx hop]

/-- A negative operand, a negative zero, a product that is too large, an operand beyond the
limit, and a string. -/
theorem expressionValue_arithmetic_negative :
    expressionValue "value - -2".toList (.num (.int 3)) none =
        Step.math { operation := some .subtract, operand := some (.ofInt (-2)) } (.num (.int 3)) ∧
      expressionValue "value / -0.00".toList (.num (.int 3)) none = .null ∧
      expressionValue "value * -4".toList
        (.num (.float (.finite false (2 ^ 52) 971 (by decide)))) none = .null ∧
      expressionValue ("value +".toList ++ '1' :: List.replicate 309 '0') (.num (.int 3)) none =
        .null ∧
      expressionValue "value / -0.00".toList (.str "a") none = .str "a" := by
  let g : Spacing := ⟨[], [' '], [' '], [], rfl, rfl, rfl, rfl⟩
  let narrow : Spacing := ⟨[], [' '], [], [], rfl, rfl, rfl, rfl⟩
  have htexts :
      "value - -2".toList = ArithmeticOp.minus.written g "-2".toList ∧
        "value / -0.00".toList = ArithmeticOp.divide.written g "-0.00".toList ∧
        "value * -4".toList = ArithmeticOp.times.written g "-4".toList ∧
        "value +".toList ++ '1' :: List.replicate 309 '0' =
          ArithmeticOp.plus.written narrow ('1' :: List.replicate 309 '0') := by
    decide +kernel
  obtain ⟨hminus, hdivide, htimes, hplus⟩ := htexts
  have hplain : ∀ numeral ∈ ["-2".toList, "-0.00".toList, "-4".toList,
      '1' :: List.replicate 309 '0'], IsPlainNumeral numeral := by
    intro numeral hnumeral
    rw [← isPlainNumeral_isAsciiDigit_iff]
    revert numeral
    decide +kernel
  simp only [List.forall_mem_cons] at hplain
  obtain ⟨htwo, hzero, hfour, hhuge, -⟩ := hplain
  rw [hminus, hdivide, htimes, hplus]
  refine ⟨?_, ?_, ?_, ?_, ?_⟩
  · obtain ⟨x, hread, hstep, -⟩ := expressionValue_arithmetic htwo g .minus none
    have hx : readNumber? "-2".toList = some (.ofInt (-2)) := by decide +kernel
    exact hstep _ _ rfl (hx.symm.trans hread)
  · obtain ⟨x, -, -, hnull, -⟩ := expressionValue_arithmetic hzero g .divide none
    refine hnull rfl (fun c hc hdigit => ?_) _
    change c ∈ ['-', '0', '.', '0', '0'] at hc
    simp only [List.mem_cons, List.not_mem_nil, or_false] at hc
    rcases hc with rfl | rfl | rfl | rfl | rfl
    case inl | inr.inr.inl => cases hdigit
    all_goals rfl
  · obtain ⟨x, hread, -, -, hlarge, -⟩ := expressionValue_arithmetic hfour g .times none
    have hx : readNumber? "-4".toList = some (.finite true (2 ^ 52) (-50) (by decide)) := by
      decide +kernel
    obtain rfl := Option.some_inj.1 (hread.symm.trans hx)
    refine hlarge _ rfl rfl ?_
    simp only [Number.toBinary64, Binary64.toRat, ArithmeticOp.exact, Binary64.signed,
      Binary64.overflowBound_eq]
    norm_num
    rw [mul_right_comm]
    gcongr
    norm_num
  · obtain ⟨x, hread, -, -, -, hinfinite, -⟩ := expressionValue_arithmetic hhuge narrow .plus none
    have hx : readNumber? ('1' :: List.replicate 309 '0') = some (.infinite false) := by
      decide +kernel
    obtain rfl := Option.some_inj.1 (hread.symm.trans hx)
    exact hinfinite (by decide) (by decide) _
  · obtain ⟨x, -, -, -, -, -, hother⟩ := expressionValue_arithmetic hzero g .divide none
    exact hother _ fun n h => by cases h

end Formula

end RecordFlow
