import RecordFlow.Proofs.Formula.SplitAndJoin
import RecordFlow.Proofs.Number.Spelling

/-!
# Parts of a string between two indices

An expression that takes the part of a string between two indices gives a part for any two
indices of 64 bits, in either order (`computeExpression_substring`).  Each index is taken to the
nearest place that the string has, so that the result does not depend on their order, and parts
that meet at an index are next to each other in the string (`between_append`).

An index is kept as it is written until the expression is computed (`IndexText`), and any row of
digits is taken for one.  It has a value if the digits are those of ASCII.  A value beyond 64
bits, or none, is reported, and leaves the string as it is.

## Main definitions

* `clamped`, `between` — the place of an index, and the part between two of them.
* `IndexText` — an index as it is written.
* `substringCall` — the text of the method, with its white space.
-/

namespace RecordFlow.Formula

open Text

/-! ### Places in a text -/

section Places

variable {s : List Char} {a b c : ℤ}

/-- **The place of an index:** the nearest one that the text has.  So no index of 64 bits is out
of range, however small or large it is. -/
def clamped (s : List Char) (a : ℤ) : ℕ :=
  (max 0 (min a s.length)).toNat

/-- **The characters between two places,** from the lesser one to the greater one, since two
indices in the wrong order are taken in the other order. -/
def between (s : List Char) (a b : ℤ) : List Char :=
  (s.take (max (clamped s a) (clamped s b))).drop (min (clamped s a) (clamped s b))

theorem between_comm (s : List Char) (a b : ℤ) : between s a b = between s b a := by
  rw [between, between, max_comm, min_comm]

theorem clamped_mono (h : a ≤ b) : clamped s a ≤ clamped s b := by
  unfold clamped
  omega

theorem between_of_le (h : a ≤ b) :
    between s a b = (s.take (clamped s b)).drop (clamped s a) := by
  rw [between, max_eq_right (clamped_mono h), min_eq_left (clamped_mono h)]

/-- **Parts that meet are next to each other.** -/
theorem between_append (hab : a ≤ b) (hbc : b ≤ c) :
    between s a b ++ between s b c = between s a c := by
  have hplaces := clamped_mono (s := s) hab
  have htake : s.take (clamped s b) = (s.take (clamped s c)).take (clamped s b) := by
    rw [List.take_take, min_eq_left (clamped_mono hbc)]
  rw [between_of_le hab, between_of_le hbc, between_of_le (Int.le_trans hab hbc), htake,
    List.drop_take]
  generalize s.take (clamped s c) = front
  have hjoin := List.take_append_drop (clamped s b - clamped s a) (front.drop (clamped s a))
  rwa [List.drop_drop, Nat.add_sub_cancel' hplaces] at hjoin

/-- Up to an index beyond its end a text goes on to the end. -/
theorem between_of_length_le (h : s.length ≤ b) : between s a b = s.drop (clamped s a) := by
  have hend : clamped s b = s.length := by
    unfold clamped
    omega
  have hle : clamped s a ≤ s.length := by
    unfold clamped
    omega
  rw [between, hend, max_eq_right hle, min_eq_left hle, List.take_length]

/-- The method of strings gives this part. -/
theorem substring_eq_between (s : List Char) (a b : ℤ) : substring s a b = between s a b := by
  have hplace (n : ℤ) : min n.toNat s.length = clamped s n := by
    unfold clamped
    omega
  rw [substring, between, List.drop_take]
  simp only [hplace]

end Places

/-! ### Indices as they are written -/

/-- **The integers of 64 bits with a sign.**  These are the indices that can be read; a longer
row of digits is reported and not clamped. -/
def IsSigned64 (a : ℤ) : Prop :=
  -2 ^ 63 ≤ a ∧ a < 2 ^ 63

instance (a : ℤ) : Decidable (IsSigned64 a) :=
  inferInstanceAs (Decidable (_ ∧ _))

/-- **An index as it is written:** perhaps a minus sign, and a row of digits of any script.  The
form of the method admits all of these, and only reading the digits as an integer tells which of
them count. -/
structure IndexText where
  /-- Whether there is a minus sign. -/
  negative : Bool
  /-- The digits. -/
  digits : List Char
  ne_nil : digits ≠ []
  decimal : ∀ c ∈ digits, isDecimalDigit c = true

namespace IndexText

variable {i : IndexText} {a b : ℤ} {c : Char} {rest : List Char}

/-- The text of an index. -/
def text (i : IndexText) : List Char :=
  (if i.negative then ['-'] else []) ++ i.digits

/-- **The integer that an index spells,** which it does in ASCII digits only. -/
def value? (i : IndexText) : Option ℤ :=
  if i.digits.all isAsciiDigit then
    some (if i.negative then -digitsValue i.digits else digitsValue i.digits)
  else none

/-- **An index gives an integer** if it spells it, and the integer has 64 bits at most.  These
are the indices that the method takes without a report. -/
def Gives (i : IndexText) (a : ℤ) : Prop :=
  i.value? = some a ∧ IsSigned64 a

instance (i : IndexText) (a : ℤ) : Decidable (i.Gives a) :=
  inferInstanceAs (Decidable (_ ∧ _))

/-- How an integer is written as an index. -/
def ofInt (a : ℤ) : IndexText where
  negative := a < 0
  digits := Nat.toDigits 10 a.natAbs
  ne_nil := Nat.toDigits_ne_nil
  decimal _ hc := isDecimalDigit_of_isAsciiDigit (isAsciiDigit_of_mem_toDigits hc)

/-- Every integer of 64 bits is given. -/
theorem gives_ofInt (h : IsSigned64 a) : (ofInt a).Gives a := by
  have hall : (Nat.toDigits 10 a.natAbs).all isAsciiDigit = true :=
    List.all_eq_true.2 fun _ hc => isAsciiDigit_of_mem_toDigits hc
  have hdigits : digitsValue (Nat.toDigits 10 a.natAbs) = a.natAbs := Nat.ofDigitChars_ten_toDigits
  refine ⟨?_, h⟩
  simp only [value?, ofInt, hall, if_true, hdigits, decide_eq_true_eq, Option.some.injEq]
  omega

/-- There is no white space in an index. -/
theorem not_isBlank (hc : c ∈ i.text) : isBlank c = false := by
  rcases List.mem_append.1 hc with hc | hc
  · split at hc
    · rw [List.mem_singleton.1 hc]
      decide
    · cases hc
  · exact isBlank_of_isDecimalDigit (i.decimal c hc)

/-- A row of digits does not begin with a sign. -/
theorem exists_digits_eq_cons (i : IndexText) :
    ∃ d digits, i.digits = d :: digits ∧ d ≠ '+' ∧ d ≠ '-' := by
  obtain ⟨d, digits, hcons⟩ := List.exists_cons_of_ne_nil i.ne_nil
  have hd : isDecimalDigit d = true := i.decimal d (by rw [hcons]; exact List.mem_cons_self)
  exact ⟨d, digits, hcons, Numeral.ne_sign_of_digit Numeral.setsOffMarks_isDecimalDigit hd⟩

theorem dropMinus_digits (i : IndexText) (rest : List Char) :
    dropMinus (i.digits ++ rest) = i.digits ++ rest := by
  obtain ⟨d, digits, hcons, -, hminus⟩ := i.exists_digits_eq_cons
  rw [hcons]
  unfold dropMinus
  split
  · next heq =>
    cases heq
    exact absurd rfl hminus
  · rfl

/-- **An index is scanned to its end,** if no digit follows. -/
theorem scanIndex?_text (i : IndexText) (hrest : ∀ d ∈ rest.head?, isDecimalDigit d = false) :
    scanIndex? (i.text ++ rest) = some (i.text, rest) := by
  obtain ⟨htake, hdrop⟩ := span_append i.decimal hrest
  have hempty : i.digits.isEmpty = false := List.isEmpty_eq_false_iff.2 i.ne_nil
  cases hnegative : i.negative with
  | false =>
    have htext : i.text = i.digits := by rw [text, hnegative]; rfl
    simp only [scanIndex?, htext, i.dropMinus_digits, htake, hdrop, hempty, Bool.false_eq_true,
      if_false, Nat.sub_self, List.take_zero, List.nil_append]
  | true =>
    have htext : i.text = '-' :: i.digits := by rw [text, hnegative]; rfl
    have hminus : dropMinus ('-' :: (i.digits ++ rest)) = i.digits ++ rest := rfl
    have hone : ('-' :: (i.digits ++ rest)).length - (i.digits ++ rest).length = 1 := by
      rw [List.length_cons, Nat.add_sub_cancel_left]
    simp only [scanIndex?, htext, List.cons_append, hminus, htake, hdrop, hempty,
      Bool.false_eq_true, if_false, hone, List.take_succ_cons, List.take_zero, List.nil_append]

/-- An index is read as the integer that it spells. -/
theorem readInt?_text (i : IndexText) : readInt? i.text = i.value? := by
  have hnat : readNat? i.digits =
      if i.digits.all isAsciiDigit then some (digitsValue i.digits) else none := by
    rw [readNat?, List.isEmpty_eq_false_iff.2 i.ne_nil]
    rfl
  cases hnegative : i.negative with
  | true =>
    have htext : i.text = '-' :: i.digits := by rw [text, hnegative]; rfl
    rw [htext, readInt?, hnat, value?, hnegative]
    split <;> rfl
  | false =>
    have htext : i.text = i.digits := by rw [text, hnegative]; rfl
    obtain ⟨d, digits, hcons, hplus, hminus⟩ := i.exists_digits_eq_cons
    have hread : readInt? i.digits = (readNat? i.digits).map fun n => (n : ℤ) := by
      rw [hcons]
      unfold readInt? readCount?
      split
      · next heq =>
        cases heq
        exact absurd rfl hminus
      · split
        · next heq =>
          cases heq
          exact absurd rfl hplus
        · rfl
    rw [htext, hread, hnat, value?, hnegative]
    split <;> rfl

theorem Gives.readIndex_text (h : i.Gives a) : readIndex i.text = .ok a := by
  obtain ⟨hvalue, hrange⟩ := h
  rw [readIndex, i.readInt?_text, hvalue, Option.filter_some_pos]
  rw [← Bool.decide_and]
  exact decide_eq_true hrange

/-- **An index that gives no integer is reported.** -/
theorem readIndex_text_of_not_gives (h : ∀ a, ¬ i.Gives a) :
    readIndex i.text = .error (.invalidNumber (String.ofList i.text) "substring") := by
  rw [readIndex, i.readInt?_text]
  cases hvalue : i.value? with
  | none => rfl
  | some a =>
    have hrange : ¬ IsSigned64 a := fun hrange => h a ⟨hvalue, hrange⟩
    rw [Option.filter_some_neg]
    rw [← Bool.decide_and]
    exact decide_eq_false hrange

end IndexText

/-! ### The method as it is written -/

/-- **The arguments of the method as they are written:** one index, or two with a comma between
them. -/
def argumentsText (g : Spacing) (first : List Char) : Option (List Char) → List Char
  | none => g.around first
  | some last => g.around (first ++ g.before ++ [','] ++ g.after ++ last)

/-- **The text of the method.** -/
def substringCall (g : Spacing) (first : IndexText) (last : Option IndexText) : List Char :=
  "value.substring(".toList ++ (argumentsText g first.text (last.map IndexText.text) ++ [')'])

variable {i j : IndexText} {a b : ℤ} {gap rest : List Char} {mark : Char}

/-- No digit follows an index that white space or a mark follows. -/
theorem isDecimalDigit_of_mem_gap (hgap : allBlank gap = true)
    (hmark : isDecimalDigit mark = false) :
    ∀ d ∈ (gap ++ mark :: rest).head?, isDecimalDigit d = false := by
  intro d hd
  cases gap with
  | nil =>
    cases hd
    exact hmark
  | cons e gap =>
    cases hd
    exact isDecimalDigit_of_isBlank (allBlank_iff.1 hgap d List.mem_cons_self)

/-- An index is scanned behind white space, up to the mark that follows it. -/
theorem scanIndex?_gap {lead : List Char} (hlead : allBlank lead = true)
    (hgap : allBlank gap = true) (hmark : isDecimalDigit mark = false) (i : IndexText) :
    scanIndex? (trimStart (lead ++ (i.text ++ (gap ++ mark :: rest)))) =
      some (i.text, gap ++ mark :: rest) := by
  have hindex : trimStart (i.text ++ (gap ++ mark :: rest)) = i.text ++ (gap ++ mark :: rest) := by
    obtain ⟨c, text, hcons⟩ : ∃ c text, i.text = c :: text :=
      List.exists_cons_of_ne_nil (List.append_ne_nil_of_right_ne_nil _ i.ne_nil)
    have hc : isBlank c = false := i.not_isBlank (by rw [hcons]; exact List.mem_cons_self)
    rw [hcons]
    exact trimStart_cons_of_not_blank hc _
  rw [trimStart_append_of_allBlank hlead, hindex,
    i.scanIndex?_text (isDecimalDigit_of_mem_gap hgap hmark)]

/-- **The arguments are read as they are written.** -/
theorem substringArguments?_written (g : Spacing) (first : IndexText) (last : Option IndexText) :
    substringArguments? (argumentsText g first.text (last.map IndexText.text) ++ [')']) =
      some (.substring first.text (last.map IndexText.text)) := by
  have hclose (gap : List Char) (hgap : allBlank gap = true) : trimStart (gap ++ [')']) = [')'] :=
    trimStart_append_of_allBlank hgap _
  cases last with
  | none =>
    simp only [Option.map_none, argumentsText, Spacing.around, List.append_assoc]
    rw [substringArguments?, scanIndex?_gap g.lead_blank g.trail_blank (by decide),
      Option.bind_some]
    simp only [hclose g.trail g.trail_blank]
  | some last =>
    have hcomma (rest : List Char) : trimStart (g.before ++ ',' :: rest) = ',' :: rest :=
      trimStart_append_of_allBlank g.before_blank _
    simp only [Option.map_some, argumentsText, Spacing.around, List.append_assoc,
      List.cons_append, List.nil_append]
    rw [substringArguments?, scanIndex?_gap g.lead_blank g.before_blank (by decide),
      Option.bind_some]
    simp only [hcomma]
    rw [scanIndex?_gap g.after_blank g.trail_blank (by decide), Option.bind_some]
    simp only [hclose g.trail g.trail_blank, if_true]

/-- **The method is read as it is written.** -/
theorem StringMethod.read?_substring (g : Spacing) (first : IndexText) (last : Option IndexText) :
    StringMethod.read? (substringCall g first last) =
      some (.substring first.text (last.map IndexText.text)) := by
  have harguments := substringArguments?_written g first last
  unfold substringCall
  generalize argumentsText g first.text (last.map IndexText.text) ++ [')'] = arguments
    at harguments ⊢
  rw [StringMethod.read?, if_neg (by simp), if_neg (by simp), if_neg (by simp), if_neg (by simp),
    dropPrefix?_append]
  exact harguments

/-- There is no white space around the method. -/
theorem trim_substringCall (g : Spacing) (first : IndexText) (last : Option IndexText) :
    trim (substringCall g first last) = substringCall g first last := by
  unfold substringCall
  refine trim_eq_self (c := 'v') (d := ')') ?_ rfl ?_ rfl
  · simp
  · rw [← List.append_assoc, List.getLast?_concat]

/-- **Nothing but the method is computed.** -/
theorem computeExpression_substringCall (g : Spacing) (first : IndexText) (last : Option IndexText)
    (t : String) (record : Option Value) :
    computeExpression (substringCall g first last) (.str t) record =
      StringMethod.apply t.toList (.substring first.text (last.map IndexText.text)) := by
  have hvalue : substringCall g first last ≠ "value".toList := by
    unfold substringCall
    simp
  have hpath : readRecordPath? (substringCall g first last) = none := by
    unfold substringCall readRecordPath?
    rfl
  rw [computeExpression_eq (trim_substringCall g first last) hvalue hpath, computeByKind,
    StringMethod.read?_substring]
  cases hresult : StringMethod.apply t.toList (.substring first.text (last.map IndexText.text)) with
  | ok result => simp only [hresult, Except.map, Option.getD_some]
  | error e => simp only [hresult, Except.map]

/-! ### What the method gives -/

/-- Two indices give the part between them. -/
theorem computeExpression_between (hi : i.Gives a) (hj : j.Gives b) (g : Spacing) (t : String)
    (record : Option Value) :
    computeExpression (substringCall g i (some j)) (.str t) record =
      .ok (.text (between t.toList a b)) := by
  rw [computeExpression_substringCall, Option.map_some, StringMethod.apply, hi.readIndex_text,
    hj.readIndex_text, ← substring_eq_between]
  rfl

/-- One index gives the part from it to the end. -/
theorem computeExpression_from (hi : i.Gives a) (g : Spacing) (t : String)
    (record : Option Value) :
    computeExpression (substringCall g i none) (.str t) record =
      .ok (.text (t.toList.drop (clamped t.toList a))) := by
  rw [computeExpression_substringCall, Option.map_none, StringMethod.apply, hi.readIndex_text,
    ← between_of_length_le (b := t.toList.length) (Int.le_refl _), ← substring_eq_between]
  rfl

/-- A first index that gives no integer is reported, whatever the last one is. -/
theorem computeExpression_first (hi : ∀ a, ¬ i.Gives a) (g : Spacing) (last : Option IndexText)
    (t : String) (record : Option Value) :
    computeExpression (substringCall g i last) (.str t) record =
      .error (.invalidNumber (String.ofList i.text) "substring") := by
  have hreport := IndexText.readIndex_text_of_not_gives hi
  rw [computeExpression_substringCall]
  cases last with
  | none =>
    rw [Option.map_none, StringMethod.apply, hreport]
    rfl
  | some last =>
    rw [Option.map_some, StringMethod.apply, hreport]
    rfl

/-- So is a last index behind a first one that gives an integer. -/
theorem computeExpression_last (hi : i.Gives a) (hj : ∀ b, ¬ j.Gives b) (g : Spacing) (t : String)
    (record : Option Value) :
    computeExpression (substringCall g i (some j)) (.str t) record =
      .error (.invalidNumber (String.ofList j.text) "substring") := by
  rw [computeExpression_substringCall, Option.map_some, StringMethod.apply, hi.readIndex_text,
    IndexText.readIndex_text_of_not_gives hj]
  rfl

/-- **The part of a string between two indices.**  With any white space in the expression, and
however the indices are written, as long as they give integers of 64 bits:

* two indices give the characters between their places, from the lesser to the greater, and so
  they do in the other order;
* one index gives the characters from its place on, as it does with an index behind it that is
  the length or more;
* the parts between three indices in increasing order are the part between the outer ones.

An index that gives no integer of 64 bits is reported, and the string is left as it is. -/
theorem computeExpression_substring (g : Spacing) (t : String) (record : Option Value) :
    (∀ (i j : IndexText) (a b : ℤ), i.Gives a → j.Gives b →
      expressionValue (substringCall g i (some j)) (.str t) record =
          .text (between t.toList a b) ∧
        expressionValue (substringCall g j (some i)) (.str t) record =
          expressionValue (substringCall g i (some j)) (.str t) record) ∧
    (∀ (i : IndexText) (a : ℤ), i.Gives a →
      expressionValue (substringCall g i none) (.str t) record =
          .text (t.toList.drop (clamped t.toList a)) ∧
        ∀ (j : IndexText) (b : ℤ), j.Gives b → t.length ≤ b →
          expressionValue (substringCall g i none) (.str t) record =
            expressionValue (substringCall g i (some j)) (.str t) record) ∧
    (∀ (i j k : IndexText) (a b c : ℤ), i.Gives a → j.Gives b → k.Gives c → a ≤ b → b ≤ c →
      ∃ x y, expressionValue (substringCall g i (some j)) (.str t) record = .text x ∧
        expressionValue (substringCall g j (some k)) (.str t) record = .text y ∧
        expressionValue (substringCall g i (some k)) (.str t) record = .text (x ++ y)) ∧
    (∀ (i : IndexText) (last : Option IndexText), (∀ a, ¬ i.Gives a) →
      computeExpression (substringCall g i last) (.str t) record =
          .error (.invalidNumber (String.ofList i.text) "substring") ∧
        expressionValue (substringCall g i last) (.str t) record = .str t) ∧
    ∀ (i j : IndexText) (a : ℤ), i.Gives a → (∀ b, ¬ j.Gives b) →
      computeExpression (substringCall g i (some j)) (.str t) record =
          .error (.invalidNumber (String.ofList j.text) "substring") ∧
        expressionValue (substringCall g i (some j)) (.str t) record = .str t := by
  have hbetween {i j : IndexText} {a b : ℤ} (hi : i.Gives a) (hj : j.Gives b) :
      expressionValue (substringCall g i (some j)) (.str t) record =
        .text (between t.toList a b) := by
    rw [expressionValue, computeExpression_between hi hj]
  have hfrom {i : IndexText} {a : ℤ} (hi : i.Gives a) :
      expressionValue (substringCall g i none) (.str t) record =
        .text (t.toList.drop (clamped t.toList a)) := by
    rw [expressionValue, computeExpression_from hi]
  refine ⟨fun i j a b hi hj => ⟨hbetween hi hj, ?_⟩, fun i a hi => ⟨hfrom hi, ?_⟩, ?_, ?_, ?_⟩
  · rw [hbetween hi hj, hbetween hj hi, between_comm]
  · intro j b hj hlength
    rw [hfrom hi, hbetween hi hj, between_of_length_le]
    rwa [String.length_toList]
  · intro i j k a b c hi hj hk hab hbc
    exact ⟨_, _, hbetween hi hj, hbetween hj hk, by rw [hbetween hi hk, between_append hab hbc]⟩
  · intro i last hi
    have hreport := computeExpression_first hi g last t record
    exact ⟨hreport, by rw [expressionValue, hreport]⟩
  · intro i j a hi hj
    have hreport := computeExpression_last hi hj g t record
    exact ⟨hreport, by rw [expressionValue, hreport]⟩

/-- Indices at the limit of 64 bits and one below it, on a string with a character of two
bytes. -/
theorem computeExpression_substring_limits :
    expressionValue "value.substring(-9223372036854775808, 2)".toList (.str "añb") none =
        .str "añ" ∧
      expressionValue "value.substring(2)".toList (.str "añb") none =
        expressionValue "value.substring(2, 3)".toList (.str "añb") none ∧
      (∃ x y,
        expressionValue "value.substring(-9223372036854775808, 2)".toList (.str "añb") none =
            .text x ∧
          expressionValue "value.substring(2, 3)".toList (.str "añb") none = .text y ∧
          expressionValue "value.substring(-9223372036854775808, 3)".toList (.str "añb") none =
            .text (x ++ y)) ∧
      computeExpression "value.substring(-9223372036854775809)".toList (.str "añb") none =
        .error (.invalidNumber "-9223372036854775809" "substring") ∧
      computeExpression "value.substring(2, -9223372036854775809)".toList (.str "añb") none =
        .error (.invalidNumber "-9223372036854775809" "substring") := by
  let g : Spacing := ⟨[], [], [' '], [], rfl, rfl, rfl, rfl⟩
  have hcalls :
      "value.substring(-9223372036854775808, 2)".toList =
          substringCall g (.ofInt (-2 ^ 63)) (some (.ofInt 2)) ∧
        "value.substring(2)".toList = substringCall g (.ofInt 2) none ∧
        "value.substring(2, 3)".toList = substringCall g (.ofInt 2) (some (.ofInt 3)) ∧
        "value.substring(-9223372036854775808, 3)".toList =
          substringCall g (.ofInt (-2 ^ 63)) (some (.ofInt 3)) ∧
        "value.substring(-9223372036854775809)".toList =
          substringCall g (.ofInt (-2 ^ 63 - 1)) none ∧
        "value.substring(2, -9223372036854775809)".toList =
          substringCall g (.ofInt 2) (some (.ofInt (-2 ^ 63 - 1))) := by
    decide +kernel
  obtain ⟨hcall₁, hcall₂, hcall₃, hcall₄, hcall₅, hcall₆⟩ := hcalls
  have hleast : (IndexText.ofInt (-2 ^ 63)).Gives (-2 ^ 63) := IndexText.gives_ofInt (by decide)
  have htwo : (IndexText.ofInt 2).Gives 2 := IndexText.gives_ofInt (by decide)
  have hthree : (IndexText.ofInt 3).Gives 3 := IndexText.gives_ofInt (by decide)
  have hbelow : ∀ b, ¬ (IndexText.ofInt (-2 ^ 63 - 1)).Gives b := by
    rintro b ⟨hvalue, hrange⟩
    have hspelled : (IndexText.ofInt (-2 ^ 63 - 1)).value? = some (-2 ^ 63 - 1) := by decide +kernel
    rw [hspelled] at hvalue
    cases hvalue
    revert hrange
    decide
  obtain ⟨hbetween, hfrom, happend, hfirst, hlast⟩ := computeExpression_substring g "añb" none
  rw [hcall₁, hcall₂, hcall₃, hcall₄, hcall₅, hcall₆]
  exact ⟨(hbetween _ _ _ _ hleast htwo).1, (hfrom _ _ htwo).2 _ _ hthree (by decide),
    happend _ _ _ _ _ _ hleast htwo hthree (by decide) (by decide), (hfirst _ none hbelow).1,
    (hlast _ _ _ htwo hbelow).1⟩

end RecordFlow.Formula
