import RecordFlow.Formula.Expression
import RecordFlow.Proofs.Formula.Literals
import RecordFlow.Proofs.Text.Scanning
import RecordFlow.Step.Choice

/-!
# Ternaries

A ternary is cut at its first question mark and the first colon after it that are outside
quotes.  So it is cut where it was put together, if the marks in the condition and in the first
branch are all within quotes (`Shelters`); what the last branch holds does not matter
(`Ternary.IsLegible.read?_trim_written`).

No form in front of the ternary takes such a text: each of them is read to the end of the text,
and none has a place for a question mark outside quotes (`computeByKind_eq_none`).  Two methods
have an argument in quotes that may hold anything, and the condition must not begin like one of
these.

So a ternary comes to what the choice by its condition between its two literals comes to
(`computeExpression_written`).

## Main definitions

* `Shelters` — the quotes of a text are closed, and a mark is only within them.
* `Ternary.written` — the text of a ternary.
* `Ternary.IsLegible` — a ternary can be told from its text.
-/

namespace RecordFlow.Formula

open Text

variable {mark c q : Char} {a b s t inside : List Char}

/-! ### Marks within quotes -/

/-- White space has no quotes in it. -/
theorem isQuote_of_isBlank (h : isBlank c = true) : isQuote c = false := by
  rw [Bool.eq_false_iff]
  intro hq
  simp only [isQuote, Bool.or_eq_true, beq_iff_eq] at hq
  simp only [isBlank, Bool.or_eq_true, Bool.and_eq_true, decide_eq_true_eq, beq_iff_eq] at h
  omega

/-- **The quotes of a text are closed, and a mark is only within them.**  Such a text can stand
before the mark without being cut at a place of its own. -/
inductive Shelters (mark : Char) : List Char → Prop
  | nil : Shelters mark []
  | plain {c : Char} {s : List Char} : isQuote c = false → c ≠ mark → Shelters mark s →
      Shelters mark (c :: s)
  | quoted {q : Char} {inside s : List Char} : isQuote q = true → q ∉ inside → Shelters mark s →
      Shelters mark (q :: (inside ++ q :: s))

namespace Shelters

theorem append (ha : Shelters mark a) (hb : Shelters mark b) : Shelters mark (a ++ b) := by
  induction ha with
  | nil => exact hb
  | plain hc hne _ ih => exact plain hc hne ih
  | quoted hq hinside _ ih =>
    rw [List.cons_append, List.append_assoc, List.cons_append]
    exact quoted hq hinside ih

/-- A text without quotes and marks. -/
theorem of_all (h : s.all (fun c => !isQuote c && c != mark) = true) : Shelters mark s := by
  induction s with
  | nil => exact nil
  | cons c s ih =>
    obtain ⟨hc, hs⟩ := (Bool.and_eq_true _ _).mp h
    obtain ⟨hquote, hne⟩ := (Bool.and_eq_true _ _).mp hc
    exact plain ((Bool.not_eq_true' _).mp hquote) (bne_iff_ne.mp hne) (ih hs)

theorem of_allBlank (hmark : isBlank mark = false) (h : allBlank s = true) : Shelters mark s := by
  refine of_all (List.all_eq_true.2 fun c hc => ?_)
  have hblank := allBlank_iff.1 h c hc
  have hne : c ≠ mark := by
    rintro rfl
    rw [hblank] at hmark
    cases hmark
  rw [isQuote_of_isBlank hblank, bne_iff_ne.mpr hne]
  rfl

/-- White space at the front can be cut off. -/
theorem of_append_of_allBlank (ha : allBlank a = true) (h : Shelters mark (a ++ s)) :
    Shelters mark s := by
  induction a with
  | nil => exact h
  | cons c a ih =>
    obtain ⟨hc, ha⟩ := (Bool.and_eq_true _ _).mp ha
    rw [List.cons_append] at h
    generalize htext : c :: (a ++ s) = text at h
    cases h with
    | nil => cases htext
    | plain _ _ hrest =>
      cases htext
      exact ih ha hrest
    | quoted hq =>
      cases (List.cons.inj htext).1
      rw [isQuote_of_isBlank hc] at hq
      cases hq

theorem trimStart (h : Shelters mark s) : Shelters mark (trimStart s) := by
  obtain ⟨g, hg, hs⟩ := exists_eq_append_trimStart s
  rw [hs] at h
  exact h.of_append_of_allBlank hg

end Shelters

/-! ### Cutting outside quotes -/

/-- Within quotes nothing is cut. -/
theorem cutOutsideQuotes?_quoted (h : q ∉ inside) (s : List Char) :
    cutOutsideQuotes? mark (some q) (inside ++ q :: s) =
      (cutOutsideQuotes? mark none s).map fun (before, after) =>
        (inside ++ q :: before, after) := by
  induction inside with
  | nil =>
    rw [List.nil_append, cutOutsideQuotes?, if_pos rfl]
    rfl
  | cons c inside ih =>
    obtain ⟨hc, hinside⟩ := not_or.1 (mt List.mem_cons.2 h)
    rw [List.cons_append, cutOutsideQuotes?, if_neg (Ne.symm hc), ih hinside, Option.map_map]
    rfl

/-- **A text is cut at the first mark outside quotes.** -/
theorem cutOutsideQuotes?_of_shelters (hmark : isQuote mark = false) (ha : Shelters mark a)
    (b : List Char) : cutOutsideQuotes? mark none (a ++ mark :: b) = some (a, b) := by
  induction ha with
  | nil => rw [List.nil_append, cutOutsideQuotes?, if_pos rfl]
  | plain hc hne _ ih =>
    rw [List.cons_append, cutOutsideQuotes?, if_neg hne, hc, if_neg Bool.false_ne_true, ih]
    rfl
  | quoted hq hinside _ ih =>
    rw [List.cons_append, List.append_assoc, List.cons_append, cutOutsideQuotes?, if_neg ?_, hq,
      if_pos rfl, cutOutsideQuotes?_quoted hinside, ih]
    · rfl
    · rintro rfl
      rw [hq] at hmark
      cases hmark

/-- Where there is no mark nothing is cut. -/
theorem cutOutsideQuotes?_of_notMem (h : mark ∉ s) (quote : Option Char) :
    cutOutsideQuotes? mark quote s = none := by
  induction s generalizing quote with
  | nil => cases quote <;> rfl
  | cons c s ih =>
    obtain ⟨hc, hs⟩ := not_or.1 (mt List.mem_cons.2 h)
    cases quote with
    | some q => rw [cutOutsideQuotes?, ih hs, Option.map_none]
    | none => rw [cutOutsideQuotes?, if_neg (Ne.symm hc), ih hs, Option.map_none]

theorem Ternary.read?_eq_none (h : '?' ∉ s) : Ternary.read? s = none := by
  rw [Ternary.read?, cutOutsideQuotes?_of_notMem h, Option.bind_none]

/-! ### The forms in front of ternaries -/

theorem questionMark_mem_trimStart (h : '?' ∈ s) : '?' ∈ trimStart s :=
  mem_trimStart (by decide) h

/-- A path has no question mark. -/
theorem readRecordPath?_eq_none (h : '?' ∈ s) : readRecordPath? s = none := by
  unfold readRecordPath?
  cases hrest : dropPrefix? "record.".toList s with
  | none => rfl
  | some path =>
    have hmem := mem_of_dropPrefix? hrest (by decide) h
    have hpath : path.all isPathChar = false :=
      List.all_eq_false.2 ⟨'?', hmem, by decide +kernel⟩
    rw [Option.bind_some, hpath, Bool.and_false, if_neg Bool.false_ne_true]

/-- An index ends before a question mark. -/
theorem mem_of_scanIndex? (h : scanIndex? s = some (a, t)) (hs : '?' ∈ s) : '?' ∈ t := by
  simp only [scanIndex?] at h
  split at h
  · cases h
  · cases h
    refine mem_dropWhile (by decide) ?_
    unfold dropMinus
    split
    · exact (List.mem_cons.1 hs).resolve_left (by decide)
    · exact hs

/-- The indices of a part of a string have no question mark. -/
theorem substringArguments?_eq_none (h : '?' ∈ s) : substringArguments? s = none := by
  rw [Option.eq_none_iff_forall_ne_some]
  intro m hm
  obtain ⟨⟨first, rest⟩, hfirst, hm⟩ := Option.bind_eq_some_iff.1 hm
  have hrest := questionMark_mem_trimStart (mem_of_scanIndex? hfirst (questionMark_mem_trimStart h))
  simp only at hm
  split at hm
  · next hclose =>
    rw [hclose] at hrest
    revert hrest
    decide
  · next hcomma =>
    rw [hcomma] at hrest
    obtain ⟨⟨last, rest⟩, hlast, hm⟩ := Option.bind_eq_some_iff.1 hm
    have hafter := (List.mem_cons.1 hrest).resolve_left (by decide)
    have hend := questionMark_mem_trimStart
      (mem_of_scanIndex? hlast (questionMark_mem_trimStart hafter))
    simp only at hm
    split at hm
    · next hclose =>
      rw [hclose] at hend
      revert hend
      decide
    · cases hm
  · cases hm

/-- A method of a string that has no argument in quotes has no question mark. -/
theorem StringMethod.read?_eq_none (h : '?' ∈ s) (hsplit : ¬ "value.split(".toList <+: s) :
    StringMethod.read? s = none := by
  have hne : ∀ word : List Char, '?' ∉ word → s ≠ word := by
    rintro word hword rfl
    exact hword h
  unfold StringMethod.read?
  rw [if_neg (hne _ (by decide)), if_neg (hne _ (by decide)), if_neg (hne _ (by decide)),
    if_neg (hne _ (by decide))]
  split
  · next rest hrest => exact substringArguments?_eq_none (mem_of_dropPrefix? hrest (by decide) h)
  · rw [dropPrefix?_eq_none hsplit]
    rfl

/-- A method of an array that has no argument in quotes has no question mark. -/
theorem ArrayMethod.read?_eq_none (h : '?' ∈ s) (hjoin : ¬ "value.join(".toList <+: s) :
    ArrayMethod.read? s = none := by
  unfold ArrayMethod.read?
  rw [if_neg (by rintro rfl; revert h; decide)]
  split
  · next rest hrest =>
    have hmem := mem_of_dropPrefix? hrest (by decide) h
    refine if_neg ?_
    rintro ⟨hlast, hdigits⟩
    obtain ⟨digits, rfl⟩ := List.getLast?_eq_some_iff.1 hlast
    rw [List.dropLast_concat, isDigitRow, Bool.and_eq_true, List.all_eq_true] at hdigits
    have hdigit : isDecimalDigit '?' = true := by
      refine hdigits.2 '?' ?_
      simpa using hmem
    revert hdigit
    decide
  · rw [dropPrefix?_eq_none hjoin]
    rfl

/-- A numeral has no question mark. -/
theorem Arithmetic.read?_eq_none (h : '?' ∈ s) : Arithmetic.read? s = none := by
  rw [Option.eq_none_iff_forall_ne_some]
  intro m hm
  obtain ⟨rest, hrest, hm⟩ := Option.bind_eq_some_iff.1 hm
  have hmem := questionMark_mem_trimStart (mem_of_dropPrefix? hrest (by decide) h)
  split at hm
  · cases hm
  · next c rest hcons =>
    rw [hcons] at hmem
    obtain ⟨op, hop, hm⟩ := Option.bind_eq_some_iff.1 hm
    have hc : '?' ≠ c := by
      rintro rfl
      cases hop
    have hoperand := questionMark_mem_trimStart ((List.mem_cons.1 hmem).resolve_left hc)
    simp only at hm
    split at hm
    · next hplain =>
      obtain ⟨sp, -, hin, htext⟩ :=
        (Numeral.isPlainNumeral_iff Numeral.setsOffMarks_isDecimalDigit).1 hplain
      rw [htext] at hoperand
      rcases hin.digit_or_mark hoperand with hdigit | hmark
      · revert hdigit
        decide
      · revert hmark
        decide
    · cases hm

/-- **No form of a kind of value has a question mark,** but for the two with a quoted
argument. -/
theorem computeByKind_eq_none (h : '?' ∈ s) (hsplit : ¬ "value.split(".toList <+: s)
    (hjoin : ¬ "value.join(".toList <+: s) (value : Value) :
    computeByKind s value = .ok none := by
  cases value with
  | str text => rw [computeByKind, StringMethod.read?_eq_none h hsplit]
  | arr items =>
    rw [computeByKind, ArrayMethod.read?_eq_none h hjoin]
    rfl
  | num n => rw [computeByKind, Arithmetic.read?_eq_none h]
  | null => rfl
  | bool b => rfl
  | obj fields => rfl

/-! ### Ternaries as they are written -/

/-- The text of a ternary, with its two marks as they are written. -/
def Ternary.written (t : Ternary) (question colon : List Char) : List Char :=
  t.condition ++ (question ++ (t.thenBranch ++ (colon ++ t.elseBranch)))

/-- **A ternary that can be told from its text:** nothing in it is blank, and neither the
condition nor the first branch has the mark that ends it outside quotes.  A mark outside quotes
would end its part earlier, and the text would be that of another ternary. -/
structure Ternary.IsLegible (t : Ternary) : Prop where
  condition_ne : allBlank t.condition = false
  thenBranch_ne : allBlank t.thenBranch = false
  elseBranch_ne : allBlank t.elseBranch = false
  condition : Shelters '?' t.condition
  thenBranch : Shelters ':' t.thenBranch

/-- What a ternary is without the white space in it. -/
def Ternary.trimmed (t : Ternary) : Ternary :=
  ⟨trim t.condition, trim t.thenBranch, trim t.elseBranch⟩

/-- A mark with white space around it. -/
theorem exists_eq_of_trim_eq_singleton (h : trim s = [mark]) :
    ∃ g g', allBlank g = true ∧ allBlank g' = true ∧ s = g ++ mark :: g' := by
  obtain ⟨g, g', hg, hg', hs⟩ := exists_eq_append_trim_append s
  rw [h] at hs
  exact ⟨g, g', hg, hg', hs⟩

namespace Ternary.IsLegible

variable {u : Ternary} {question colon : List Char}

theorem trim_written (h : u.IsLegible) :
    trim (u.written question colon) = trimStart u.condition ++
      (question ++ (u.thenBranch ++ (colon ++ trimEnd u.elseBranch))) := by
  have hcolon := allBlank_append_of_right h.elseBranch_ne colon
  have hthen := allBlank_append_of_right hcolon u.thenBranch
  have hquestion := allBlank_append_of_right hthen question
  rw [written, trim_append h.condition_ne hquestion, trimEnd_append hthen, trimEnd_append hcolon,
    trimEnd_append h.elseBranch_ne]

/-- **A ternary is read as it is written.** -/
theorem read?_trim_written (h : u.IsLegible) (hquestion : trim question = ['?'])
    (hcolon : trim colon = [':']) :
    Ternary.read? (trim (u.written question colon)) = some u.trimmed := by
  obtain ⟨g₁, g₂, hg₁, hg₂, rfl⟩ := exists_eq_of_trim_eq_singleton hquestion
  obtain ⟨g₃, g₄, hg₃, hg₄, rfl⟩ := exists_eq_of_trim_eq_singleton hcolon
  have htext : trim (u.written (g₁ ++ '?' :: g₂) (g₃ ++ ':' :: g₄)) =
      (trimStart u.condition ++ g₁) ++ '?' ::
        ((g₂ ++ (u.thenBranch ++ g₃)) ++ ':' :: (g₄ ++ trimEnd u.elseBranch)) := by
    rw [h.trim_written]
    simp only [List.append_assoc, List.cons_append]
  have hfirst : Shelters '?' (trimStart u.condition ++ g₁) :=
    h.condition.trimStart.append (Shelters.of_allBlank (by decide) hg₁)
  have hsecond : Shelters ':' (g₂ ++ (u.thenBranch ++ g₃)) :=
    (Shelters.of_allBlank (by decide) hg₂).append
      (h.thenBranch.append (Shelters.of_allBlank (by decide) hg₃))
  have hcondition : trim (trimStart u.condition ++ g₁) = trim u.condition := by
    rw [trim_append_of_allBlank hg₁, trim_trimStart]
  have hthen : trim (g₂ ++ (u.thenBranch ++ g₃)) = trim u.thenBranch := by
    rw [trim_append_left_of_allBlank hg₂, trim_append_of_allBlank hg₃]
  have helse : trim (g₄ ++ trimEnd u.elseBranch) = trim u.elseBranch := by
    rw [trim_append_left_of_allBlank hg₄, trim_trimEnd]
  have hne : ∀ {s : List Char}, allBlank s = false → (trim s).isEmpty = false :=
    fun hs => List.isEmpty_eq_false_iff.2 (trim_ne_nil hs)
  simp only [htext, Ternary.read?, cutOutsideQuotes?_of_shelters (by decide) hfirst,
    cutOutsideQuotes?_of_shelters (by decide) hsecond, Option.bind_some, hcondition, hthen, helse,
    hne h.condition_ne, hne h.thenBranch_ne, hne h.elseBranch_ne, Bool.or_self, Bool.false_eq_true,
    if_false, trimmed]

theorem questionMark_mem_trim_written (h : u.IsLegible) (hquestion : trim question = ['?']) :
    '?' ∈ trim (u.written question colon) := by
  obtain ⟨g, g', -, -, rfl⟩ := exists_eq_of_trim_eq_singleton hquestion
  rw [h.trim_written]
  simp

/-- A ternary begins like its condition, up to white space and the question mark. -/
theorem prefix_condition (h : u.IsLegible) (hquestion : trim question = ['?']) {p : List Char}
    (hp : p.all (fun d => !isBlank d && d != '?') = true)
    (hbegins : p <+: trim (u.written question colon)) : p <+: trim u.condition := by
  obtain ⟨g, g', hg, -, rfl⟩ := exists_eq_of_trim_eq_singleton hquestion
  obtain ⟨w, hw, hcondition⟩ := exists_eq_trimEnd_append (trimStart u.condition)
  rw [h.trim_written, hcondition, List.append_assoc] at hbegins
  refine prefix_of_prefix_append hbegins fun d hd hmem => ?_
  obtain ⟨hblank, hmark⟩ := (Bool.and_eq_true _ _).mp (List.all_eq_true.1 hp d hmem)
  -- behind the condition comes white space or the question mark
  have hnext : isBlank d = true ∨ d = '?' := by
    have hgap : ∀ x ∈ w ++ g, isBlank x = true :=
      List.forall_mem_append.2 ⟨allBlank_iff.1 hw, allBlank_iff.1 hg⟩
    rw [List.append_assoc, ← List.append_assoc w] at hd
    generalize w ++ g = gap at hd hgap
    cases gap with
    | nil => exact Or.inr (Option.some.inj hd).symm
    | cons x gap =>
      cases hd
      exact Or.inl (hgap d List.mem_cons_self)
  rcases hnext with hnext | hnext
  · rw [hnext] at hblank
    cases hblank
  · exact bne_iff_ne.mp hmark hnext

end Ternary.IsLegible

/-! ### What white space around a text does not change -/

theorem conditionHolds_trim (s : List Char) (value : Value) (record : Option Value) :
    conditionHolds (trim s) value record = conditionHolds s value record := by
  simp only [conditionHolds, decideCondition, Condition.read?, trim_trim]

theorem literal_trim (s : List Char) : literal (trim s) = literal s := by
  simp only [literal, trim_trim]

/-! ### What a ternary comes to -/

/-- White space does not change what is chosen. -/
theorem Ternary.choose_trimmed (t : Ternary) (value : Value) (record : Option Value) :
    t.trimmed.choose value record =
      if conditionHolds t.condition value record then literal t.thenBranch
      else literal t.elseBranch := by
  simp only [choose, trimmed, conditionHolds_trim]
  split
  · exact literal_trim t.thenBranch
  · exact literal_trim t.elseBranch

/-- **A ternary is the choice that it abbreviates.**  Its text gives the branch that its
condition chooses, as the step does that has the condition and the two branches among its
options.  It does so with a record and without one, and however much white space there is around
its parts. -/
theorem computeExpression_written {u : Ternary} {question colon : List Char} (h : u.IsLegible)
    (hquestion : trim question = ['?']) (hcolon : trim colon = [':'])
    (hsplit : ¬ "value.split(".toList <+: trim u.condition)
    (hjoin : ¬ "value.join(".toList <+: trim u.condition) (value : Value)
    (record : Option Value) (o : Options) :
    computeExpression (u.written question colon) value record =
        .ok (if conditionHolds u.condition value record then literal u.thenBranch
          else literal u.elseBranch) ∧
      expressionValue (u.written question colon) value record =
        Step.ifElse { o with
          condition := some (String.ofList u.condition)
          thenValue := some (literal u.thenBranch)
          elseValue := some (literal u.elseBranch) } record value := by
  have hmark : '?' ∈ trim (u.written question colon) := h.questionMark_mem_trim_written hquestion
  have hvalue : trim (u.written question colon) ≠ "value".toList := by
    intro heq
    rw [heq] at hmark
    revert hmark
    decide
  have hsplit : ¬ "value.split(".toList <+: trim (u.written question colon) :=
    fun hbegins => hsplit (h.prefix_condition hquestion (by decide) hbegins)
  have hjoin : ¬ "value.join(".toList <+: trim (u.written question colon) :=
    fun hbegins => hjoin (h.prefix_condition hquestion (by decide) hbegins)
  have hrecord : (record.bind fun r =>
      (readRecordPath? (trim (u.written question colon))).map r.resolve) = none := by
    rw [readRecordPath?_eq_none hmark]
    cases record <;> rfl
  have hgeneral : computeGeneral (trim (u.written question colon)) value record =
      u.trimmed.choose value record := by
    simp only [computeGeneral, h.read?_trim_written hquestion hcolon]
  have hcompute : computeExpression (u.written question colon) value record =
      .ok (if conditionHolds u.condition value record then literal u.thenBranch
        else literal u.elseBranch) := by
    simp only [computeExpression]
    rw [if_neg hvalue, hrecord, computeByKind_eq_none hmark hsplit hjoin]
    exact congrArg Except.ok (hgeneral.trans (u.choose_trimmed value record))
  refine ⟨hcompute, ?_⟩
  rw [expressionValue, hcompute, Step.ifElse]
  simp only [String.toList_ofList]
  split <;> rfl

/-- A ternary with its marks in quotes and out of them. -/
def puzzle : Ternary :=
  ⟨"value == 'why?'".toList, "is it? 'a:b'".toList, "it's 5:00".toList⟩

theorem isLegible_puzzle : puzzle.IsLegible where
  condition_ne := by decide
  thenBranch_ne := by decide
  elseBranch_ne := by decide
  condition := (Shelters.of_all (s := "value == ".toList) (by decide)).append
    (@Shelters.quoted '?' '\'' "why?".toList [] (by decide) (by decide) .nil)
  thenBranch := (Shelters.of_all (s := "is it? ".toList) (by decide)).append
    (@Shelters.quoted ':' '\'' "a:b".toList [] (by decide) (by decide) .nil)

/-- Quotes and marks that do not count, in each of the three places. -/
theorem computeExpression_written_puzzle :
    computeExpression "value == 'why?' ? is it? 'a:b' : it's 5:00".toList (.str "why?") none =
      .ok (.text "is it? 'a:b'".toList) := by
  obtain ⟨hcompute, -⟩ := @computeExpression_written puzzle " ? ".toList " : ".toList
    isLegible_puzzle (by decide) (by decide) (by decide) (by decide) (.str "why?") none {}
  rw [show conditionHolds puzzle.condition (.str "why?") none = true by decide +kernel,
    if_pos rfl] at hcompute
  exact hcompute

end RecordFlow.Formula
