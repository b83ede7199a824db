import RecordFlow.Proofs.Step.Markup
import RecordFlow.Proofs.Step.Wording
import RecordFlow.Step.Handler

/-!
# Steps that can be carried out again

Some kinds of steps bring a value into a form and leave a value in that form alone
(`StepKind.normalizing`).  Such a step can be carried out on its own result, under the same
options and in the same surroundings, and nothing changes (`handler_idempotent`).

The form is another one for each kind, and the second time is seldom the first time over again.
A number that is read is a number or null, and null is then read as text, which spells no
number.  A text that is padded may have been an array before.  A default may be missing itself:
then it is looked for again, and the same is found.

## Main definitions

* `StepKind.normalizing` — the kinds of steps that bring a value into a form.
* `Value.IsNumberOrNull` — the form of the steps that read numbers.
-/

namespace RecordFlow

/-- **The kinds of steps that bring a value into a form.**  Other kinds may change a value each
time they are carried out, as escaping does. -/
def StepKind.normalizing : List StepKind :=
  [trim, truncate, pad, stripHtml, toString, toNumber, toBoolean, toArray, parseNumber, parseFloat,
    parseBoolean, default, coalesce, filter]

/-- **A number or null:** what a step gives that reads numbers. -/
def Value.IsNumberOrNull (v : Value) : Prop :=
  v = .null ∨ ∃ n, v = .num n

/-- The value of a computed number is a number, or null where that is not finite. -/
theorem Value.isNumberOrNull_ofBinary64 (x : Binary64) : (Value.ofBinary64 x).IsNumberOrNull := by
  unfold Value.ofBinary64
  split
  · exact Or.inl rfl
  · split
    · exact Or.inr ⟨_, rfl⟩
    · exact Or.inr ⟨_, rfl⟩

theorem Value.isNumberOrNull_elim (x : Option Binary64) :
    (x.elim .null Value.ofBinary64).IsNumberOrNull := by
  cases x with
  | none => exact Or.inl rfl
  | some x => exact Value.isNumberOrNull_ofBinary64 x

namespace Step

variable {f : Value → Value} {o : Options} {record : Option Value} {v : Value}

/-! ### Steps that read numbers -/

/-- What gives numbers or null, and leaves them alone, changes a value once. -/
theorem idempotent_of_isNumberOrNull (hgives : ∀ v, (f v).IsNumberOrNull)
    (hnum : ∀ n, f (.num n) = .num n) (hnull : f .null = .null) (v : Value) : f (f v) = f v := by
  rcases hgives v with hv | ⟨n, hv⟩
  · rw [hv, hnull]
  · rw [hv, hnum]

theorem isNumberOrNull_toNumber (v : Value) : (toNumber v).IsNumberOrNull := by
  cases v with
  | null => exact Or.inl rfl
  | bool b => exact Or.inr ⟨_, rfl⟩
  | num n => exact Or.inr ⟨n, rfl⟩
  | str s => exact Value.isNumberOrNull_elim _
  | arr items => exact Value.isNumberOrNull_elim _
  | obj fields => exact Or.inl rfl

theorem toNumber_toNumber (v : Value) : toNumber (toNumber v) = toNumber v :=
  idempotent_of_isNumberOrNull isNumberOrNull_toNumber (fun _ => rfl) rfl v

theorem isNumberOrNull_parseNumber (o : Options) (v : Value) :
    (parseNumber o v).IsNumberOrNull := by
  cases v with
  | num n => exact Or.inr ⟨n, rfl⟩
  | str s => exact Value.isNumberOrNull_elim _
  | _ => exact Or.inl rfl

theorem parseNumber_parseNumber (o : Options) (v : Value) :
    parseNumber o (parseNumber o v) = parseNumber o v :=
  idempotent_of_isNumberOrNull (isNumberOrNull_parseNumber o) (fun _ => rfl) rfl v

theorem isNumberOrNull_parseFloat (v : Value) : (parseFloat v).IsNumberOrNull := by
  unfold parseFloat
  split
  · exact Or.inr ⟨_, rfl⟩
  · exact Value.isNumberOrNull_elim _

/-- The text of null begins with no numeral. -/
theorem parseFloat_null : parseFloat .null = .null := by
  have hnone : Numeric.readLeading? Value.null.toText = none := by decide
  unfold parseFloat
  simp only [hnone, Option.elim_none]

theorem parseFloat_parseFloat (v : Value) : parseFloat (parseFloat v) = parseFloat v :=
  idempotent_of_isNumberOrNull isNumberOrNull_parseFloat (fun _ => rfl) parseFloat_null v

/-! ### Steps on texts -/

theorem trim_trim (v : Value) : trim (trim v) = trim v :=
  Value.mapText_mapText Text.trim_trim v

theorem stripHtml_stripHtml (v : Value) : stripHtml (stripHtml v) = stripHtml v :=
  Value.mapText_mapText Markup.stripTags_stripTags v

theorem truncate_truncate (o : Options) (v : Value) :
    truncate o (truncate o v) = truncate o v := by
  unfold truncate
  cases o.maxLength with
  | none => rfl
  | some n => exact Value.mapText_mapText (Wording.truncate_truncate n _) v

/-- The text of any value but null is padded. -/
theorem pad_of_ne_null (h : v ≠ .null) (o : Options) :
    pad o v = .text (match o.padLength with
      | none => v.toText
      | some n => Wording.pad n (chars o.padChar " ") (o.padSide.getD .start) v.toText) := by
  unfold pad
  split
  · exact absurd rfl h
  · cases o.padLength <;> rfl

theorem pad_pad (o : Options) (v : Value) : pad o (pad o v) = pad o v := by
  by_cases h : v = .null
  · rw [h]
    rfl
  · have htext (s : List Char) : Value.text s ≠ .null := nofun
    rw [pad_of_ne_null h, pad_of_ne_null (htext _), Value.toText_text]
    cases o.padLength with
    | none => rfl
    | some n => simp only [Wording.pad_pad]

/-! ### Steps that change the kind of a value -/

/-- Every value becomes a string. -/
theorem exists_toString_eq (v : Value) : ∃ s, toString v = .str s := by
  cases v <;> exact ⟨_, rfl⟩

theorem toString_str (s : String) : toString (.str s) = .str s := by
  show Value.str (String.ofList s.toList) = .str s
  rw [String.ofList_toList]

theorem toString_toString (v : Value) : toString (toString v) = toString v := by
  obtain ⟨s, hs⟩ := exists_toString_eq v
  rw [hs, toString_str]

theorem toBoolean_toBoolean (v : Value) : toBoolean (toBoolean v) = toBoolean v := rfl

theorem toArray_toArray (v : Value) : toArray (toArray v) = toArray v := by
  cases v <;> rfl

theorem parseBoolean_parseBoolean (o : Options) (v : Value) :
    parseBoolean o (parseBoolean o v) = parseBoolean o v := by
  have hread (x : Option Bool) : parseBoolean o (x.elim .null .bool) = x.elim .null .bool := by
    cases x <;> rfl
  cases v with
  | null => rfl
  | bool b => rfl
  | _ => exact hread _

/-! ### Steps that choose -/

theorem default_of_isMissing (h : v.isMissing = true) (o : Options) :
    default o v = o.defaultValue.getD .null :=
  if_pos h

theorem default_of_not_isMissing (h : ¬ v.isMissing = true) (o : Options) : default o v = v :=
  if_neg h

theorem default_default (o : Options) (v : Value) : default o (default o v) = default o v := by
  by_cases h : v.isMissing = true
  · rw [default_of_isMissing h]
    by_cases hdefault : (o.defaultValue.getD .null).isMissing = true
    · exact default_of_isMissing hdefault o
    · exact default_of_not_isMissing hdefault o
  · rw [default_of_not_isMissing h, default_of_not_isMissing h]

/-- The first field of the record that is not missing, among those that the options name. -/
def firstPresent? (o : Options) (record : Option Value) : Option Value :=
  ((o.fields.getD []).map fun path => (record.getD .null).resolve path).find? (!·.isMissing)

theorem not_isMissing_of_firstPresent? {found : Value} (h : firstPresent? o record = some found) :
    ¬ found.isMissing = true := by
  have hfound := List.find?_some h
  simpa using hfound

theorem coalesce_of_isMissing (h : v.isMissing = true) :
    coalesce o record v = (firstPresent? o record).getD (o.defaultValue.getD .null) := by
  rw [coalesce, if_pos h]
  cases hfound : firstPresent? o record with
  | some found =>
    rw [firstPresent?] at hfound
    simp only [hfound, Option.getD_some]
  | none =>
    rw [firstPresent?] at hfound
    simp only [hfound, Option.getD_none]

theorem coalesce_of_not_isMissing (h : ¬ v.isMissing = true) : coalesce o record v = v :=
  if_neg h

/-- Where all is missing, all is missing the second time. -/
theorem coalesce_coalesce (o : Options) (record : Option Value) (v : Value) :
    coalesce o record (coalesce o record v) = coalesce o record v := by
  by_cases h : v.isMissing = true
  · rw [coalesce_of_isMissing h]
    cases hfound : firstPresent? o record with
    | some found => exact coalesce_of_not_isMissing (not_isMissing_of_firstPresent? hfound)
    | none =>
      show coalesce o record (o.defaultValue.getD .null) = o.defaultValue.getD .null
      -- a default that is missing is looked for again, as nothing was found in the record
      by_cases hdefault : (o.defaultValue.getD .null).isMissing = true
      · rw [coalesce_of_isMissing hdefault, hfound, Option.getD_none]
      · exact coalesce_of_not_isMissing hdefault
  · rw [coalesce_of_not_isMissing h, coalesce_of_not_isMissing h]

theorem filter_filter (o : Options) (record : Option Value) (v : Value) :
    filter o record (filter o record v) = filter o record v := by
  unfold filter
  cases v with
  | arr items =>
    cases o.expression with
    | none => rfl
    | some e => simp only [List.filter_filter, Bool.and_self]
  | _ => cases o.expression <;> rfl

end Step

/-- **A step that brings a value into a form can be carried out again:** on its own result,
under the same options and in the same surroundings, it changes nothing.

So a pipeline may be run over records that it was run over before.  This holds for every value
and all options, also for odd ones, such as a mark of a cut that is longer than what is left. -/
theorem handler_idempotent : ∀ kind ∈ StepKind.normalizing,
    ∃ handler, kind.handler? = some handler ∧
      ∀ (o : Options) (surroundings : Surroundings) (v : Value),
        handler o surroundings (handler o surroundings v) = handler o surroundings v := by
  intro kind hkind
  simp only [StepKind.normalizing, List.mem_cons, List.not_mem_nil, or_false] at hkind
  rcases hkind with
    rfl | rfl | rfl | rfl | rfl | rfl | rfl | rfl | rfl | rfl | rfl | rfl | rfl | rfl
  · exact ⟨_, rfl, fun _ _ => Step.trim_trim⟩
  · exact ⟨_, rfl, fun o _ => Step.truncate_truncate o⟩
  · exact ⟨_, rfl, fun o _ => Step.pad_pad o⟩
  · exact ⟨_, rfl, fun _ _ => Step.stripHtml_stripHtml⟩
  · exact ⟨_, rfl, fun _ _ => Step.toString_toString⟩
  · exact ⟨_, rfl, fun _ _ => Step.toNumber_toNumber⟩
  · exact ⟨_, rfl, fun _ _ => Step.toBoolean_toBoolean⟩
  · exact ⟨_, rfl, fun _ _ => Step.toArray_toArray⟩
  · exact ⟨_, rfl, fun o _ => Step.parseNumber_parseNumber o⟩
  · exact ⟨_, rfl, fun _ _ => Step.parseFloat_parseFloat⟩
  · exact ⟨_, rfl, fun o _ => Step.parseBoolean_parseBoolean o⟩
  · exact ⟨_, rfl, fun o _ => Step.default_default o⟩
  · exact ⟨_, rfl, fun o s => Step.coalesce_coalesce o s.record⟩
  · exact ⟨_, rfl, fun o s => Step.filter_filter o s.record⟩

/-- Options of a cut whose mark is longer than what is left. -/
def longSuffix : Options :=
  { maxLength := some 2, suffix := some "[...]" }

/-- What marks a cut text may be longer than the text may be; it stays whole the second time. -/
theorem handler_idempotent_longSuffix : ∃ handler, StepKind.truncate.handler? = some handler ∧
    ∀ surroundings, handler longSuffix surroundings (.str "abcdef") = .str "[...]" ∧
      handler longSuffix surroundings (.str "[...]") = .str "[...]" := by
  obtain ⟨handler, hhandler, hagain⟩ := handler_idempotent .truncate (by decide)
  refine ⟨handler, hhandler, fun surroundings => ?_⟩
  have hcut : handler longSuffix surroundings (.str "abcdef") = .str "[...]" := by
    cases hhandler
    rfl
  have htwice := hagain longSuffix surroundings (.str "abcdef")
  rw [hcut] at htwice
  exact ⟨hcut, htwice⟩

end RecordFlow
