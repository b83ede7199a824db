import RecordFlow.Formula.Expression
import RecordFlow.Proofs.Formula.ConditionGrammar
import RecordFlow.Proofs.Text.Splitting

/-!
# Splitting and joining by expressions

An expression that splits a string at a separator, and then one that joins the parts with the
same separator, give the string back (`expressionValue_join_split`).

The separator goes through the text of the expression.  It stands between the first quote behind
the opening parenthesis and the last one before the closing parenthesis, so that it may hold
quotes and parentheses itself, or look like a part of a ternary or a template: the methods of
strings and arrays are looked for before those (`expressionValue_of_computeByKind`).

## Main definitions

* `quotedCall` — the text of a method with a quoted argument.
-/

namespace RecordFlow.Formula

open Text

variable {separator argument s : List Char}

/-- **The text of a method with an argument in quotes.**  The argument is put in as it is, since
the readers of these methods take all up to the last quote. -/
def quotedCall (method : String) (argument : List Char) : List Char :=
  method.toList ++ '\'' :: (argument ++ ['\'', ')'])

/-! ### Methods before all else -/

/-- An expression that is no path of a record is what the form of the value's own kind makes of
it, if there is one. -/
theorem computeExpression_eq {e : List Char} {value : Value} (htrim : trim s = e)
    (hvalue : e ≠ "value".toList) (hpath : readRecordPath? e = none) (record : Option Value) :
    computeExpression s value record =
      (computeByKind e value).map (·.getD (computeGeneral e value record)) := by
  have hrecord : (record.bind fun r => (readRecordPath? e).map r.resolve) = none := by
    rw [hpath]
    cases record <;> rfl
  simp only [computeExpression, htrim, if_neg hvalue, hrecord]
  congr 1
  funext result
  cases result <;> rfl

/-- **A method of the value's own kind is computed,** whatever else the expression could be. -/
theorem expressionValue_of_computeByKind {value result : Value} (htrim : trim s = s)
    (hvalue : s ≠ "value".toList) (hpath : readRecordPath? s = none)
    (h : computeByKind s value = .ok (some result)) (record : Option Value) :
    expressionValue s value record = result := by
  rw [expressionValue, computeExpression_eq htrim hvalue hpath, h]
  rfl

/-- What a call begins and ends with is not blank. -/
theorem trim_quotedCall {method : String} {c : Char} (hc : method.toList.head? = some c)
    (hblank : isBlank c = false) (argument : List Char) :
    trim (quotedCall method argument) = quotedCall method argument := by
  refine trim_eq_self (c := c) (d := ')') ?_ hblank ?_ rfl
  · rw [quotedCall, List.head?_append, hc]
    rfl
  · have hsplit : quotedCall method argument =
        method.toList ++ '\'' :: argument ++ ['\''] ++ [')'] := by
      simp [quotedCall]
    rw [hsplit, List.getLast?_concat]

/-! ### Splitting -/

theorem StringMethod.read?_split (hline : '\n' ∉ separator) :
    StringMethod.read? (quotedCall "value.split(" separator) = some (.split separator) := by
  have hsubstring : dropPrefix? "value.substring(".toList (quotedCall "value.split(" separator) =
      none := by
    simp [quotedCall, dropPrefix?]
  rw [StringMethod.read?, hsubstring, quotedCall, if_neg (by simp), if_neg (by simp),
    if_neg (by simp), if_neg (by simp), dropPrefix?_append]
  show (quotedArgument? _).map StringMethod.split = _
  rw [quotedArgument?_quoted hline, Option.map_some]

/-- **A string is split at what stands in the quotes.** -/
theorem expressionValue_split (hline : '\n' ∉ separator) (t : String) (record : Option Value) :
    expressionValue (quotedCall "value.split(" separator) (.str t) record =
      .arr (pieces separator t.toList) := by
  refine expressionValue_of_computeByKind (trim_quotedCall rfl rfl separator) ?_ ?_ ?_ record
  · simp [quotedCall]
  · simp [readRecordPath?, quotedCall, dropPrefix?]
  · rw [computeByKind, StringMethod.read?_split hline]
    rfl

/-! ### Joining -/

theorem ArrayMethod.read?_join (hline : '\n' ∉ separator) :
    ArrayMethod.read? (quotedCall "value.join(" separator) = some (.join separator) := by
  have hindex : dropPrefix? "value[".toList (quotedCall "value.join(" separator) = none := by
    simp [quotedCall, dropPrefix?]
  rw [ArrayMethod.read?, hindex, quotedCall, if_neg (by simp), dropPrefix?_append]
  show (quotedArgument? _).map ArrayMethod.join = _
  rw [quotedArgument?_quoted hline, Option.map_some]

/-- **The items of an array are joined with what stands in the quotes.** -/
theorem expressionValue_join (hline : '\n' ∉ separator) (items : List Value)
    (record : Option Value) :
    expressionValue (quotedCall "value.join(" separator) (.arr items) record =
      .text (joinWith separator (items.map Value.display)) := by
  refine expressionValue_of_computeByKind (trim_quotedCall rfl rfl separator) ?_ ?_ ?_ record
  · simp [quotedCall]
  · simp [readRecordPath?, quotedCall, dropPrefix?]
  · rw [computeByKind, ArrayMethod.read?_join hline]
    rfl

/-! ### One after the other -/

/-- **The parts of a text** join to the text.  They are what stands between the separators, or
the characters of the text if the separator is empty. -/
theorem exists_parts (separator s : List Char) :
    ∃ parts : List (List Char), pieces separator s = .map Value.text parts ∧
      joinWith separator parts = s ∧
      (separator ≠ [] → ∀ part ∈ parts, ¬ separator <:+: part) ∧
      (separator = [] → parts = s.map ([·])) := by
  rcases eq_or_ne separator [] with rfl | hne
  · refine ⟨s.map ([·]), ?_, joinWith_nil_singletons s, fun hne => absurd rfl hne, fun _ => rfl⟩
    rw [List.map_map]
    rfl
  · refine ⟨splitOn separator s, ?_, joinWith_splitOn hne s, ?_, fun hnil => absurd hnil hne⟩
    · rw [pieces, List.isEmpty_eq_false_iff.2 hne]
      rfl
    · intro _ part hpart
      exact not_infix_of_mem_splitOn hne hpart

/-- Strings show themselves. -/
theorem map_display_text (parts : List (List Char)) :
    (parts.map Value.text).map Value.display = parts := by
  rw [List.map_map]
  refine (List.map_congr_left fun part _ => ?_).trans (List.map_id parts)
  exact String.toList_ofList

/-- **Joining undoes splitting.**  What a string is split into are strings, and they join to the
string again.  No part holds the separator, and where there is none the parts are the
characters.

The separator is any text of one line, as long as it is the same for both, and the string is any
string, also the empty one and one that the separator occurs in at overlapping places. -/
theorem expressionValue_join_split (hline : '\n' ∉ separator) (t : String)
    (record : Option Value) :
    ∃ parts : List (List Char),
      expressionValue (quotedCall "value.split(" separator) (.str t) record =
          .arr (parts.map Value.text) ∧
        expressionValue (quotedCall "value.join(" separator) (.arr (parts.map Value.text)) record =
          .str t ∧
        (separator ≠ [] → ∀ part ∈ parts, ¬ separator <:+: part) ∧
        (separator = [] → parts = t.toList.map ([·])) := by
  obtain ⟨parts, hpieces, hjoin, hwithin, hsingle⟩ := exists_parts separator t.toList
  refine ⟨parts, ?_, ?_, hwithin, hsingle⟩
  · rw [expressionValue_split hline, hpieces]
  · rw [expressionValue_join hline, map_display_text, hjoin, Value.text, String.ofList_toList]

/-- A separator with quotes, parentheses and the marks of ternaries and templates in it. -/
theorem expressionValue_join_split_marks :
    '\n' ∉ "') ? '$\x7b : (\"".toList ∧
      ∃ parts : List (List Char),
        expressionValue "value.split('') ? '$\x7b : (\"')".toList
            (.str "one') ? '$\x7b : (\"two") none = .arr (parts.map Value.text) ∧
          expressionValue "value.join('') ? '$\x7b : (\"')".toList
            (.arr (parts.map Value.text)) none = .str "one') ? '$\x7b : (\"two" := by
  have hline : '\n' ∉ "') ? '$\x7b : (\"".toList := by decide
  obtain ⟨parts, hsplit, hjoin, -, -⟩ :=
    expressionValue_join_split hline "one') ? '$\x7b : (\"two" none
  exact ⟨hline, parts, hsplit, hjoin⟩

end RecordFlow.Formula
