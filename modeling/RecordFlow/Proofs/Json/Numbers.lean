import RecordFlow.Json.Printer
import RecordFlow.Json.Token
import RecordFlow.Proofs.Formula.IntegerComparison
import RecordFlow.Proofs.Step.IntegerTexts

/-!
# Numbers in JSON

What is written for a number is the spelling of a numeral that JSON allows
(`exists_spelling_render`): it has no plus sign, and digits on both sides of its point.  Such a
spelling is scanned to its end, if the text does not go on with a digit, a point or the mark of
a power, or it is not scanned at all (`scanNumber?_text`).  For an integer of 64 bits what is
scanned is the integer (`scanNumber?_intText`).

## Main definitions

* `Numeral.Spelling.IsStrict` — the spellings of numerals that JSON allows.
* `IsUnsigned` — a text is one of them without a sign.
-/

namespace RecordFlow

open Text Numeral

/-- **The spellings that JSON allows:** without a plus sign, and with digits before the point
and behind it. -/
structure Numeral.Spelling.IsStrict (sp : Spelling) : Prop where
  sign : sp.sign ≠ some false
  whole : sp.whole ≠ []
  fraction : sp.fraction ≠ some []

namespace Json

variable {digits whole fraction r s u : List Char} {power : Option PowerSpelling} {c : Char}
variable {sp : Spelling} {n : ℤ}

/-! ### What is written for a number -/

/-- **A text is a strict spelling without a sign.**  What is written for a number is told first
without its sign, since that is put in front in the same way in every layout. -/
def IsUnsigned (s : List Char) : Prop :=
  ∃ sp : Spelling, sp.sign = none ∧ sp.InDigits isAsciiDigit ∧ sp.IsStrict ∧ s = sp.text

/-- Digits, and perhaps a power of ten. -/
theorem isUnsigned_whole (hwhole : ∀ c ∈ whole, isAsciiDigit c = true) (hne : whole ≠ [])
    (hpower : ∀ p ∈ power, p.InDigits isAsciiDigit) : IsUnsigned (whole ++ powerText power) := by
  refine ⟨⟨none, whole, none, power⟩, rfl, ⟨hwhole, ?_, ?_, hpower⟩, ⟨?_, hne, ?_⟩, rfl⟩
  · intro c hc
    cases hc
  · intro hnil
    exact absurd hnil hne
  · intro hsign
    cases hsign
  · intro hfraction
    cases hfraction

/-- Digits with a point between them, and perhaps a power of ten. -/
theorem isUnsigned_point (hwhole : ∀ c ∈ whole, isAsciiDigit c = true) (hne : whole ≠ [])
    (hfraction : ∀ c ∈ fraction, isAsciiDigit c = true) (hfractionNe : fraction ≠ [])
    (hpower : ∀ p ∈ power, p.InDigits isAsciiDigit) :
    IsUnsigned (whole ++ '.' :: (fraction ++ powerText power)) := by
  refine ⟨⟨none, whole, some fraction, power⟩, rfl, ⟨hwhole, hfraction, ?_, hpower⟩,
    ⟨?_, hne, ?_⟩, rfl⟩
  · intro _
    exact hfractionNe
  · intro hsign
    cases hsign
  · intro hnil
    exact hfractionNe (Option.some.inj hnil)

theorem isUnsigned_decimal (hwhole : ∀ c ∈ whole, isAsciiDigit c = true) (hne : whole ≠ [])
    (hfraction : ∀ c ∈ fraction, isAsciiDigit c = true) (hfractionNe : fraction ≠ []) :
    IsUnsigned (whole ++ '.' :: fraction) := by
  have hpoint : IsUnsigned (whole ++ '.' :: (fraction ++ powerText none)) :=
    isUnsigned_point hwhole hne hfraction hfractionNe nofun
  rwa [powerText, List.append_nil] at hpoint

/-- Digits with a point where an exponent puts it. -/
theorem isUnsigned_positional (hdigits : ∀ c ∈ digits, isAsciiDigit c = true) (hne : digits ≠ [])
    (pointZero : Bool) (exponent : ℤ) :
    IsUnsigned (DecimalLayout.positional pointZero digits exponent) := by
  have hzeros : ∀ k, ∀ c ∈ List.replicate k '0', isAsciiDigit c = true := by
    intro k c hc
    rw [(List.mem_replicate.1 hc).2]
    rfl
  unfold DecimalLayout.positional
  split
  · next hnonneg =>
    have hwhole : ∀ c ∈ digits ++ List.replicate exponent.toNat '0', isAsciiDigit c = true :=
      List.forall_mem_append.2 ⟨hdigits, hzeros exponent.toNat⟩
    have hwholeNe : digits ++ List.replicate exponent.toNat '0' ≠ [] :=
      List.append_ne_nil_of_left_ne_nil hne _
    cases pointZero with
    | true => exact isUnsigned_decimal hwhole hwholeNe (hzeros 1) (List.cons_ne_nil _ _)
    | false =>
      have hplain : IsUnsigned (digits ++ List.replicate exponent.toNat '0' ++ powerText none) :=
        isUnsigned_whole hwhole hwholeNe nofun
      exact hplain
  · next hneg =>
    have hplaces : 0 < (-exponent).toNat := by omega
    simp only
    generalize (-exponent).toNat = places at hplaces
    split
    · next hlt =>
      refine isUnsigned_decimal (fun c hc => hdigits c (List.mem_of_mem_take hc)) ?_
        (fun c hc => hdigits c (List.mem_of_mem_drop hc)) ?_
      · rw [Ne, List.take_eq_nil_iff, not_or]
        exact ⟨by omega, hne⟩
      · rw [Ne, List.drop_eq_nil_iff]
        omega
    · exact isUnsigned_decimal (hzeros 1) (List.cons_ne_nil _ _)
        (List.forall_mem_append.2 ⟨hzeros _, hdigits⟩) (List.append_ne_nil_of_right_ne_nil _ hne)

/-- Digits with the point after the first one, and a power of ten. -/
theorem isUnsigned_scientific (hdigits : ∀ c ∈ digits, isAsciiDigit c = true) (hne : digits ≠ [])
    (plusSign : Bool) (leading : ℤ) :
    IsUnsigned (DecimalLayout.scientific plusSign digits leading) := by
  obtain ⟨sg, hsign⟩ : ∃ sg, signText sg =
      if leading < 0 then ['-'] else if plusSign then ['+'] else [] := by
    split
    · exact ⟨some true, rfl⟩
    · split
      · exact ⟨some false, rfl⟩
      · exact ⟨none, rfl⟩
  have hpower : ∀ p ∈ some (PowerSpelling.mk 'e' sg (Nat.toDigits 10 leading.natAbs)),
      p.InDigits isAsciiDigit := by
    rintro p ⟨⟩
    exact ⟨Or.inl rfl, Nat.toDigits_ne_nil, fun c hc => isAsciiDigit_of_mem_toDigits hc⟩
  have htext : ∀ mantissa : List Char,
      mantissa ++ 'e' :: (if leading < 0 then ['-'] else if plusSign then ['+'] else []) ++
          (toString leading.natAbs).toList =
        mantissa ++ powerText (some ⟨'e', sg, Nat.toDigits 10 leading.natAbs⟩) := by
    intro mantissa
    rw [Nat.toString_eq_ofList_toDigits, String.toList_ofList, powerText, hsign]
    simp
  obtain ⟨d, rest, rfl⟩ := List.exists_cons_of_ne_nil hne
  obtain ⟨hd, hrest⟩ := List.forall_mem_cons.1 hdigits
  have hfirst : ∀ c ∈ [d], isAsciiDigit c = true := List.forall_mem_singleton.2 hd
  unfold DecimalLayout.scientific
  simp only [htext]
  cases rest with
  | nil => exact isUnsigned_whole hfirst hne hpower
  | cons e rest =>
    exact isUnsigned_point hfirst (List.cons_ne_nil _ _) hrest (List.cons_ne_nil _ _) hpower

/-- **What is written for a finite number spells a numeral that JSON allows.** -/
theorem exists_spelling_render (l : DecimalLayout) (negative : Bool) (m : ℕ) (e : ℤ) :
    ∃ sp : Spelling, sp.InDigits isAsciiDigit ∧ sp.IsStrict ∧ l.render negative m e = sp.text := by
  have hunsigned : IsUnsigned (if m = 0 then DecimalLayout.positional l.pointZero ['0'] 0
      else l.ofDecimal (shortest l.tieUp m e)) := by
    split
    · exact isUnsigned_positional (List.forall_mem_singleton.2 rfl) (List.cons_ne_nil _ _) _ _
    · unfold DecimalLayout.ofDecimal
      split
      · exact isUnsigned_positional (fun c hc => isAsciiDigit_of_mem_toDigits hc)
          Nat.toDigits_ne_nil _ _
      · exact isUnsigned_scientific (fun c hc => isAsciiDigit_of_mem_toDigits hc)
          Nat.toDigits_ne_nil _ _
  obtain ⟨sp, hnone, hin, hstrict, htext⟩ := hunsigned
  refine ⟨{ sp with sign := if negative then some true else none },
    ⟨hin.whole, hin.fraction, hin.ne_nil, hin.power⟩, ⟨?_, hstrict.whole, hstrict.fraction⟩, ?_⟩
  · cases negative <;> nofun
  · rw [DecimalLayout.render, htext, Spelling.text, hnone]
    cases negative <;> rfl

/-! ### What is scanned -/

/-- A number without its minus sign. -/
def scanUnsigned? (negative : Bool) (u : List Char) : Option (Option Value × List Char) :=
  let whole := u.takeWhile isAsciiDigit
  if whole.isEmpty || (whole.head? == some '0' && whole.length != 1) then none
  else
    match u.dropWhile isAsciiDigit with
    | '.' :: rest =>
      let fraction := rest.takeWhile isAsciiDigit
      if fraction.isEmpty then none
      else
        scanNumber?.powerOf ⟨negative, whole, fraction, none⟩ false (rest.dropWhile isAsciiDigit)
    | rest => scanNumber?.powerOf ⟨negative, whole, [], none⟩ true rest

theorem scanNumber?_minus (u : List Char) : scanNumber? ('-' :: u) = scanUnsigned? true u := by
  have hlength : (u.length != ('-' :: u).length) = true := by simp
  rw [scanNumber?]
  simp only [hlength]
  rfl

theorem scanNumber?_cons (hc : c ≠ '-') (s : List Char) :
    scanNumber? (c :: s) = scanUnsigned? false (c :: s) := by
  rw [scanNumber?, bne_self_eq_false]
  · rfl
  · rintro rest ⟨⟩
    exact hc rfl

/-- A sign is scanned where digits follow. -/
theorem scanNumber?_signText {sg : Option Bool} (hsign : sg ≠ some false)
    (hu : ∀ c ∈ u.head?, c ≠ '-') (hne : u ≠ []) :
    scanNumber? (signText sg ++ u) = scanUnsigned? (sg == some true) u := by
  obtain ⟨c, u, rfl⟩ := List.exists_cons_of_ne_nil hne
  rcases sg with _ | (_ | _)
  · exact scanNumber?_cons (hu c rfl) u
  · exact absurd rfl hsign
  · exact scanNumber?_minus (c :: u)

/-- The power of ten of a spelling is scanned to its end. -/
theorem powerOf_powerText {numeral : Numeral} (hnone : numeral.power = none) (isInteger : Bool)
    (hpower : ∀ p ∈ power, p.InDigits isAsciiDigit) (hr : Ends isAsciiDigit r) :
    scanNumber?.powerOf numeral isInteger (powerText power ++ r) =
      some (numeralValue? { numeral with power := power.map PowerSpelling.parts }
        (isInteger && power.isNone), r) := by
  have hscan := scanPower_powerText setsOffMarks_isAsciiDigit hpower hr
  cases power with
  | none =>
    have hnumeral : { numeral with power := none } = numeral := by rw [← hnone]
    rw [Option.map_none, hnumeral, Option.isNone_none, Bool.and_true]
    cases r with
    | nil => rfl
    | cons c r =>
      obtain ⟨-, -, he, hE⟩ := hr c rfl
      exact if_neg (not_or.2 ⟨he, hE⟩)
  | some p =>
    have htext : powerText (some p) ++ r = p.mark :: (signText p.sign ++ p.digits ++ r) := by
      simp [powerText]
    rw [htext] at hscan ⊢
    rw [scanNumber?.powerOf, if_pos (hpower p rfl).mark, hscan]
    simp

/-- **A strict spelling is scanned to its end,** whatever its value is, unless there is a
superfluous zero in front of it.  That its value may be none does not matter here: a number
beyond the finite ones is a number all the same. -/
theorem scanNumber?_text (hin : sp.InDigits isAsciiDigit) (hstrict : sp.IsStrict)
    (hr : Ends isAsciiDigit r) :
    scanNumber? (sp.text ++ r) =
      if sp.whole.head? == some '0' && sp.whole.length != 1 then none
      else some (numeralValue? sp.numeral (sp.fraction.isNone && sp.power.isNone), r) := by
  obtain ⟨sg, whole, fraction, power⟩ := sp
  have hmarks := setsOffMarks_isAsciiDigit
  have hnonempty : whole.isEmpty = false := List.isEmpty_eq_false_iff.2 hstrict.whole
  have hminus : ∀ u, ∀ c ∈ (whole ++ u).head?, c ≠ '-' := fun u c hc =>
    (ne_sign_of_mem_head? hmarks hin.whole hstrict.whole c hc).2
  have hhead := of_mem_head?_powerText hmarks hin.power hr
  cases fraction with
  | none =>
    have htext : (Spelling.mk sg whole none power).text ++ r =
        signText sg ++ (whole ++ (powerText power ++ r)) := by
      simp [Spelling.text, fractionText]
    obtain ⟨htake, hdrop⟩ := span_append hin.whole fun d hd => (hhead d hd).1
    rw [htext, scanNumber?_signText hstrict.sign (hminus _)
      (List.append_ne_nil_of_left_ne_nil hstrict.whole _), scanUnsigned?, htake, hdrop, hnonempty,
      Bool.false_or]
    refine if_congr Iff.rfl rfl ?_
    split
    · next rest hpoint =>
      rw [hpoint] at hhead
      exact absurd rfl (hhead '.' rfl).2
    · exact powerOf_powerText rfl true hin.power hr
  | some fraction =>
    have hfraction : fraction.isEmpty = false :=
      List.isEmpty_eq_false_iff.2 fun hnil => hstrict.fraction (congrArg some hnil)
    have htext : (Spelling.mk sg whole (some fraction) power).text ++ r =
        signText sg ++ (whole ++ '.' :: (fraction ++ (powerText power ++ r))) := by
      simp [Spelling.text, fractionText]
    obtain ⟨htake, hdrop⟩ := span_append (b := '.' :: (fraction ++ (powerText power ++ r)))
      hin.whole (by rintro d ⟨⟩; rfl)
    obtain ⟨hfractionTake, hfractionDrop⟩ :=
      span_append (a := fraction) hin.fraction fun d hd => (hhead d hd).1
    rw [htext, scanNumber?_signText hstrict.sign (hminus _)
      (List.append_ne_nil_of_left_ne_nil hstrict.whole _), scanUnsigned?, htake, hdrop, hnonempty,
      Bool.false_or]
    refine if_congr Iff.rfl rfl ?_
    simp only [hfractionTake, hfractionDrop, hfraction]
    exact powerOf_powerText rfl false hin.power hr

/-! ### Integers -/

/-- No digit zero stands in front of another digit. -/
theorem head?_toDigits {m : ℕ} (hm : m ≠ 0) : (Nat.toDigits 10 m).head? ≠ some '0' := by
  induction m using Nat.strong_induction_on with
  | _ m ih =>
    rw [Nat.toDigits_eq_if (by decide)]
    split
    · next hlt =>
      have hdigit : ∀ k < 10, k ≠ 0 → Nat.digitChar k ≠ '0' := by decide
      exact fun hhead => hdigit m hlt hm (Option.some.inj hhead)
    · next hge =>
      rw [List.head?_append_of_ne_nil _ Nat.toDigits_ne_nil]
      exact ih (m / 10) (by omega) (by omega)

theorem isStrict_ofInt (n : ℤ) : (Spelling.ofInt n).IsStrict :=
  ⟨(isPlain_ofInt n).sign, (isPlain_ofInt n).whole, (isPlain_ofInt n).fraction⟩

/-- The numeral of an integer of 64 bits stands for the integer. -/
theorem numeralValue?_ofInt (hn : Formula.IsMachineInt n) :
    numeralValue? (Spelling.ofInt n).numeral true = some (.int n) := by
  have hrange : inIntegerRange n = true := by
    rw [inIntegerRange, Bool.and_eq_true, decide_eq_true_eq, decide_eq_true_eq]
    exact hn
  rw [numeral_ofInt, numeralValue?]
  simp only [digitsValue_toDigits]
  by_cases hneg : n < 0
  · have hvalue : -(n.natAbs : ℤ) = n := by omega
    have hne : (n == 0) = false := beq_eq_false_iff_ne.2 (by omega)
    rw [decide_eq_true hneg, if_pos rfl, hvalue, hrange, hne]
    rfl
  · have hvalue : (n.natAbs : ℤ) = n := by omega
    rw [decide_eq_false hneg, if_neg Bool.false_ne_true, hvalue, hrange]
    rfl

/-- **The text of an integer of 64 bits is scanned as the integer.** -/
theorem scanNumber?_intText (hn : Formula.IsMachineInt n) (hr : Ends isAsciiDigit r) :
    scanNumber? (intText n ++ r) = some (some (.int n), r) := by
  have hzero : ((Spelling.ofInt n).whole.head? == some '0' &&
      (Spelling.ofInt n).whole.length != 1) = false := by
    show ((Nat.toDigits 10 n.natAbs).head? == some '0' &&
      (Nat.toDigits 10 n.natAbs).length != 1) = false
    rcases eq_or_ne n.natAbs 0 with hzero | hne
    · rw [hzero]
      rfl
    · rw [beq_eq_false_iff_ne.2 (head?_toDigits hne), Bool.false_and]
  rw [← text_ofInt, scanNumber?_text (inDigits_ofInt n) (isStrict_ofInt n) hr, hzero,
    if_neg Bool.false_ne_true]
  show some (numeralValue? (Spelling.ofInt n).numeral true, r) = _
  rw [numeralValue?_ofInt hn]

end Json

end RecordFlow
