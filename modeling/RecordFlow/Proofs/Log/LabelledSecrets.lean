import RecordFlow.Proofs.Log.MailAddresses
import RecordFlow.Proofs.Text.Scanning

/-!
# Labelled secrets

A labelled secret is a label, a gap of separators and a row of at least three characters
(`LabelledSecret`).  Redaction is there to take it out of a text.  It does so where neither of
its two passes begins before the label and ends behind it.

* **No address runs into the label.**  Letters that follow an open address belong to its
  top-level domain, and the label is masked with the address (`OpensMail`).
* **No earlier secret runs into the label,** or the gap has no white space.  An earlier label
  takes the row of characters after it as its secret.  If what stands before our label opens
  such a secret (`OpensSecret`), the label and its gap up to the first white space belong to
  that secret, and our own secret is left over.

The second condition is not there for the proof: `token: password: hunter22` keeps its password.

The pass over secrets is followed from one match to the next, by induction on the text before
the label (`LabelledSecret.notMem_redactSecrets`).  The match at the label takes the whole
secret (`LabelledSecret.splitSecret?_text`); a match that begins before the label ends before
it, or the text before the label opens a secret (`LabelledSecret.splitSecret?_append`).  The
pass over mail addresses comes first and only rewrites the parts
(`LabelledSecret.redactMail_text`, `OpensSecret.of_redactMail`).

## Main definitions

* `LabelledSecret` — a label, a gap, a secret and what follows.
* `BeginsSecret` — the beginning of what is read behind a label and one separator.
* `OpensSecret` — a text ends in a label, a separator and the beginning of a secret.
-/

namespace RecordFlow.Log

open Text

variable {c d e : Char} {s r t x y gap label front after : List Char}

/-! ### Characters of labels, gaps and secrets -/

/-- Whether a text is a label, in any case of its letters.  A secret in a text is told by the
label before it, and by nothing else. -/
def IsLabel (label : List Char) : Prop :=
  label.map foldedLetter ∈ secretLabels

instance : DecidablePred IsLabel :=
  fun label => inferInstanceAs (Decidable (label.map foldedLetter ∈ secretLabels))

/-- The characters that are no letters are folded to themselves. -/
theorem foldedLetter_eq_self (h : c.toNat < 65 ∨ 90 < c.toNat) (hlong : c.toNat ≠ 0x17F)
    (hkelvin : c.toNat ≠ 0x212A) : foldedLetter c = c := by
  rw [foldedLetter, if_neg (by omega), if_neg hlong, if_neg hkelvin]

theorem foldedLetter_of_isBlank (h : isBlank c = true) : foldedLetter c = c := by
  have hmem := toNat_mem_blankCodes h
  simp only [blankCodes, List.mem_cons, List.not_mem_nil, or_false] at hmem
  exact foldedLetter_eq_self (by omega) (by omega) (by omega)

/-- **What is not folded and in no folded label is in no label.** -/
theorem IsLabel.ne_of_mem (hlabel : IsLabel label) (hc : c ∈ label) (hd : foldedLetter d = d)
    (hout : d ∉ secretLabels.flatten) : c ≠ d := by
  rintro rfl
  refine hout (List.mem_flatten.2 ⟨label.map foldedLetter, hlabel, ?_⟩)
  exact List.mem_map.2 ⟨c, hc, hd⟩

theorem IsLabel.notMem (hlabel : IsLabel label) (hd : foldedLetter d = d)
    (hout : d ∉ secretLabels.flatten) : d ∉ label :=
  fun hmem => hlabel.ne_of_mem hmem hd hout rfl

theorem isBlank_of_mem_secretLabels (hc : c ∈ secretLabels.flatten) : isBlank c = false := by
  have hall : secretLabels.flatten.all (!isBlank ·) = true := by decide
  have hnot := List.all_eq_true.1 hall c hc
  rwa [Bool.not_eq_true'] at hnot

theorem IsLabel.not_isBlank (hlabel : IsLabel label) (hc : c ∈ label) : isBlank c = false := by
  rw [Bool.eq_false_iff]
  intro hblank
  refine hlabel.ne_of_mem hc (foldedLetter_of_isBlank hblank) ?_ rfl
  exact fun hmem => ne_of_isBlank hblank (isBlank_of_mem_secretLabels hmem) rfl

/-- A label has no separator in it. -/
theorem IsLabel.not_isSecretSeparator (hlabel : IsLabel label) (hc : c ∈ label) :
    isSecretSeparator c = false := by
  have hequals : c ≠ '=' := hlabel.ne_of_mem hc (by decide) (by decide)
  have hcolon : c ≠ ':' := hlabel.ne_of_mem hc (by decide) (by decide)
  simp [isSecretSeparator, hequals, hcolon, hlabel.not_isBlank hc]

theorem isQuoteMark_iff : isQuoteMark c = true ↔ c = '\'' ∨ c = '"' := by
  have hcode : c.toNat = 0x27 ↔ c = '\'' := by
    rw [← Char.toNat_inj]
    rfl
  rw [isQuoteMark, Bool.or_eq_true, beq_iff_eq, beq_iff_eq, hcode]

/-- A label has no quote in it. -/
theorem IsLabel.not_isQuoteMark (hlabel : IsLabel label) (hc : c ∈ label) :
    isQuoteMark c = false := by
  rw [Bool.eq_false_iff]
  intro hquote
  rcases isQuoteMark_iff.1 hquote with hc' | hc'
  · exact hlabel.ne_of_mem hc (by decide) (by decide) hc'
  · exact hlabel.ne_of_mem hc (by decide) (by decide) hc'

/-- The characters of a label may stand in a secret. -/
theorem IsLabel.isSecretChar (hlabel : IsLabel label) (hc : c ∈ label) : isSecretChar c = true := by
  rw [Log.isSecretChar, hlabel.not_isBlank hc, hlabel.not_isQuoteMark hc]
  rfl

theorem five_le_length_of_mem_secretLabels : ∀ label ∈ secretLabels, 5 ≤ label.length := by
  decide

theorem IsLabel.five_le_length (hlabel : IsLabel label) : 5 ≤ label.length := by
  have hlength := five_le_length_of_mem_secretLabels _ hlabel
  rwa [List.length_map] at hlength

theorem IsLabel.ne_nil (hlabel : IsLabel label) : label ≠ [] := by
  rintro rfl
  exact absurd hlabel.five_le_length (by decide)

/-- White space is in no mail address. -/
theorem not_isMailChar_of_isBlank (h : isBlank c = true) : isMailChar c = false := by
  rw [Bool.eq_false_iff]
  intro hmail
  have hmem := toNat_mem_blankCodes h
  simp only [blankCodes, List.mem_cons, List.not_mem_nil, or_false] at hmem
  simp only [isMailChar, isMailboxChar, isAsciiLetter, isAsciiDigit, Bool.or_eq_true,
    Bool.and_eq_true, decide_eq_true_eq, beq_iff_eq, ← Char.toNat_inj] at hmail
  simp only [Char.reduceToNat] at hmail
  omega

theorem ne_asterisk_of_isBlank (h : isBlank c = true) : c ≠ '*' := by
  rintro rfl
  exact absurd h (by decide)

/-- Separators are in no mail address and not in its mask. -/
theorem not_isMailChar_of_isSecretSeparator (h : isSecretSeparator c = true) :
    isMailChar c = false ∧ c ≠ '*' := by
  simp only [isSecretSeparator, Bool.or_eq_true, beq_iff_eq] at h
  rcases h with (rfl | rfl) | hblank
  · decide
  · decide
  · exact ⟨not_isMailChar_of_isBlank hblank, ne_asterisk_of_isBlank hblank⟩

/-- Quotes are in no mail address and not in its mask. -/
theorem not_isMailChar_of_isQuoteMark (h : isQuoteMark c = true) :
    isMailChar c = false ∧ c ≠ '*' := by
  rcases isQuoteMark_iff.1 h with rfl | rfl <;> decide

/-- What may not stand in a secret is in no mail address. -/
theorem not_isMailChar_of_not_isSecretChar (h : isSecretChar c = false) :
    isMailChar c = false := by
  rw [isSecretChar, Bool.and_eq_false_iff, Bool.not_eq_false', Bool.not_eq_false'] at h
  rcases h with hblank | hquote
  · exact not_isMailChar_of_isBlank hblank
  · exact (not_isMailChar_of_isQuoteMark hquote).1

theorem isSecretChar_of_isMailChar (h : isMailChar c = true) : isSecretChar c = true := by
  rw [← Bool.not_eq_false]
  intro hsecret
  rw [not_isMailChar_of_not_isSecretChar hsecret] at h
  cases h

/-- A separator that is not white space may stand in a secret. -/
theorem isSecretChar_of_isSecretSeparator (h : isSecretSeparator c = true)
    (hblank : isBlank c = false) : isSecretChar c = true := by
  simp only [isSecretSeparator, hblank, Bool.or_false, Bool.or_eq_true, beq_iff_eq] at h
  rcases h with rfl | rfl <;> decide

/-! ### The label -/

/-- No label begins or ends with another. -/
theorem secretLabels_eq_of_isPrefix :
    ∀ a ∈ secretLabels, ∀ b ∈ secretLabels, a <+: b → a = b := by
  decide

theorem secretLabels_eq_of_isSuffix :
    ∀ a ∈ secretLabels, ∀ b ∈ secretLabels, a <:+ b → a = b := by
  decide

theorem IsLabel.eq_of_isPrefix (hx : IsLabel x) (hy : IsLabel y) (h : x <+: y) : x = y := by
  have hmap := secretLabels_eq_of_isPrefix _ hx _ hy (h.map foldedLetter)
  have hlength := congrArg List.length hmap
  rw [List.length_map, List.length_map] at hlength
  exact h.eq_of_length hlength

/-- A label with something before it is no label. -/
theorem IsLabel.eq_nil_of_append (hlabel : IsLabel label) (h : IsLabel (x ++ label)) :
    x = [] := by
  have hsuffix : label.map foldedLetter <:+ (x ++ label).map foldedLetter :=
    (List.suffix_append x label).map foldedLetter
  have hlength := congrArg List.length (secretLabels_eq_of_isSuffix _ hlabel _ h hsuffix)
  rw [List.length_map, List.length_map, List.length_append] at hlength
  exact List.length_eq_zero_iff.1 (by omega)

/-- **A label is read where one stands.** -/
theorem splitLabel?_eq_some_iff :
    splitLabel? s = some (label, r) ↔ s = label ++ r ∧ IsLabel label := by
  have hsplit {label r : List Char} (h : splitLabel? s = some (label, r)) :
      s = label ++ r ∧ IsLabel label := by
    obtain ⟨l, hl, htake⟩ := List.exists_of_findSome?_eq_some h
    split at htake
    · next hmap =>
      cases htake
      refine ⟨(List.take_append_drop ..).symm, ?_⟩
      rw [IsLabel, hmap]
      exact hl
    · cases htake
  refine ⟨hsplit, ?_⟩
  rintro ⟨hs, hlabel⟩
  -- some label is read, and no other label begins like this one
  have hread : (splitLabel? s).isSome = true := by
    rw [splitLabel?, List.findSome?_isSome_iff]
    refine ⟨label.map foldedLetter, hlabel, ?_⟩
    rw [hs, List.length_map, List.take_left, if_pos rfl]
    rfl
  obtain ⟨⟨label', r'⟩, hlabel'⟩ := Option.isSome_iff_exists.1 hread
  obtain ⟨hs', hfold'⟩ := hsplit hlabel'
  have hsame : label' = label := by
    rcases List.prefix_or_prefix_of_prefix (hs' ▸ List.prefix_append label' r')
      (hs ▸ List.prefix_append label r) with hprefix | hprefix
    · exact hfold'.eq_of_isPrefix hlabel hprefix
    · exact (hlabel.eq_of_isPrefix hfold' hprefix).symm
  subst hsame
  rw [hs] at hs'
  rw [hlabel', List.append_cancel_left hs']

/-! ### The separators and the secret -/

theorem dropQuoteMark_suffix (s : List Char) : dropQuoteMark s <:+ s := by
  cases s with
  | nil => exact List.suffix_refl _
  | cons c s =>
    rw [dropQuoteMark]
    split
    · exact List.suffix_cons c s
    · exact List.suffix_refl _

/-- A row of secret characters begins with no quote. -/
theorem dropQuoteMark_cons (hc : isSecretChar c = true) (s : List Char) :
    dropQuoteMark (c :: s) = c :: s := by
  rw [isSecretChar, Bool.and_eq_true, Bool.not_eq_true', Bool.not_eq_true'] at hc
  rw [dropQuoteMark, if_neg (by rw [hc.2]; exact Bool.false_ne_true)]

/-- The beginning of what is read behind a label and one separator: more separators, perhaps a
quote, and characters of the secret. -/
def BeginsSecret (s : List Char) : Prop :=
  ∃ gap quote start, s = gap ++ (quote ++ start) ∧ (∀ c ∈ gap, isSecretSeparator c = true) ∧
    quote.length ≤ 1 ∧ (∀ c ∈ quote, isQuoteMark c = true) ∧ ∀ c ∈ start, isSecretChar c = true

/-- **A text ends in the beginning of a secret,** with its label.  Characters that follow belong
to the secret. -/
def OpensSecret (s : List Char) : Prop :=
  ∃ front label e opening, s = front ++ (label ++ e :: opening) ∧ IsLabel label ∧
    isSecretSeparator e = true ∧ BeginsSecret opening

/-- An end that opens a secret opens it in the whole text. -/
theorem OpensSecret.of_isSuffix (h : OpensSecret s) (hs : s <:+ t) : OpensSecret t := by
  obtain ⟨x, rfl⟩ := hs
  obtain ⟨front, label, e, opening, rfl, hrest⟩ := h
  exact ⟨x ++ front, label, e, opening, (List.append_assoc ..).symm, hrest⟩

theorem beginsSecret_of_forall (h : ∀ c ∈ s, isSecretChar c = true) : BeginsSecret s :=
  ⟨[], [], s, rfl, fun _ hc => absurd hc List.not_mem_nil, Nat.zero_le 1,
    fun _ hc => absurd hc List.not_mem_nil, h⟩

theorem BeginsSecret.cons (h : BeginsSecret s) (hc : isSecretSeparator c = true) :
    BeginsSecret (c :: s) := by
  obtain ⟨gap, quote, start, rfl, hgap, hrest⟩ := h
  exact ⟨c :: gap, quote, start, rfl, List.forall_mem_cons.2 ⟨hc, hgap⟩, hrest⟩

/-- A secret is a row of its characters, as long as possible. -/
theorem exists_of_afterSecret? (h : afterSecret? s = some r) :
    ∃ start rest, s = start ++ rest ∧ (∀ c ∈ start, isSecretChar c = true) ∧
      (∀ d ∈ rest.head?, isSecretChar d = false) ∧ r = dropQuoteMark rest := by
  rw [afterSecret?] at h
  split at h
  · cases h
    refine ⟨s.takeWhile isSecretChar, s.dropWhile isSecretChar,
      List.takeWhile_append_dropWhile.symm, fun c hc => List.mem_takeWhile_imp hc, ?_, rfl⟩
    intro d hd
    have hhead := List.head?_dropWhile_not isSecretChar s
    rw [Option.mem_def.1 hd] at hhead
    exact hhead
  · cases h

/-- What is read behind a label and one separator begins as a secret does, and ends where no
character of a secret follows. -/
theorem exists_of_afterSeparators? (h : afterSeparators? s = some r) :
    ∃ opening rest, s = opening ++ rest ∧ BeginsSecret opening ∧
      (∀ d ∈ rest.head?, isSecretChar d = false) ∧ r = dropQuoteMark rest := by
  induction s with
  | nil => cases h
  | cons c s ih =>
    rw [afterSeparators?] at h
    split at h
    · next hc =>
      rcases Option.or_eq_some_iff.1 h with hmore | ⟨-, hsecret⟩
      · obtain ⟨opening, rest, rfl, hopening, hrest⟩ := ih hmore
        exact ⟨c :: opening, rest, rfl, hopening.cons hc, hrest⟩
      · obtain ⟨start, rest, hs, hstart, hrest⟩ := exists_of_afterSecret? hsecret
        exact ⟨start, rest, hs, beginsSecret_of_forall hstart, hrest⟩
    · obtain ⟨start, rest, hs, hstart, hrest⟩ := exists_of_afterSecret? h
      rw [dropQuoteMark] at hs
      split at hs
      · next hquote =>
        subst hs
        refine ⟨c :: start, rest, rfl, ⟨[], [c], start, rfl, ?_, Nat.le_refl 1, ?_, hstart⟩, hrest⟩
        · exact fun _ hd => absurd hd List.not_mem_nil
        · intro d hd
          rwa [List.mem_singleton.1 hd]
      · exact ⟨start, rest, hs, beginsSecret_of_forall hstart, hrest⟩

/-- **What one match takes:** a label, a separator and the longest beginning of a secret, and
perhaps the quote after it. -/
theorem exists_of_splitSecret? (h : splitSecret? s = some (label, r)) :
    ∃ e opening rest, s = label ++ e :: opening ++ rest ∧ IsLabel label ∧
      isSecretSeparator e = true ∧ BeginsSecret opening ∧
      (∀ d ∈ rest.head?, isSecretChar d = false) ∧ r = dropQuoteMark rest := by
  simp only [splitSecret?, Option.bind_eq_some_iff, Option.map_eq_some_iff, Prod.mk.injEq] at h
  obtain ⟨⟨label', rest⟩, hlabel, after, hafter, rfl, rfl⟩ := h
  obtain ⟨rfl, hfold⟩ := splitLabel?_eq_some_iff.1 hlabel
  cases rest with
  | nil => cases hafter
  | cons e s =>
    rw [afterLabelled?] at hafter
    split at hafter
    · next he =>
      obtain ⟨opening, rest, rfl, hopening, hrest⟩ := exists_of_afterSeparators? hafter
      exact ⟨e, opening, rest, by simp, hfold, he, hopening, hrest⟩
    · cases hafter

/-- A row of secret characters stops the secret at its end. -/
theorem afterSecret?_append (hx : ∀ c ∈ x, isSecretChar c = true)
    (hy : ∀ d ∈ y.head?, isSecretChar d = false) :
    afterSecret? (x ++ y) = if 3 ≤ x.length then some (dropQuoteMark y) else none := by
  obtain ⟨htake, hdrop⟩ := span_append hx hy
  rw [afterSecret?, htake, hdrop]

/-- Behind a row of secret characters nothing is left of it. -/
theorem suffix_of_afterSeparators? (hx : ∀ c ∈ x, isSecretChar c = true)
    (hy : ∀ d ∈ y.head?, isSecretChar d = false) (h : afterSeparators? (x ++ y) = some r) :
    r <:+ y := by
  induction x with
  | nil =>
    obtain ⟨opening, rest, hs, -, -, rfl⟩ := exists_of_afterSeparators? h
    rw [List.nil_append] at hs
    rw [hs]
    exact (dropQuoteMark_suffix rest).trans (List.suffix_append opening rest)
  | cons c x ih =>
    have hsecret (h : afterSecret? (c :: x ++ y) = some r) : r <:+ y := by
      rw [afterSecret?_append hx hy] at h
      split at h
      · cases h
        exact dropQuoteMark_suffix y
      · cases h
    rw [List.cons_append, afterSeparators?] at h
    split at h
    · rcases Option.or_eq_some_iff.1 h with hmore | ⟨-, hnow⟩
      · exact ih (List.forall_mem_cons.1 hx).2 hmore
      · exact hsecret hnow
    · rw [dropQuoteMark_cons (List.forall_mem_cons.1 hx).1] at h
      exact hsecret h

/-- A secret behind separators is read to its end. -/
theorem exists_afterSeparators?_append (hgap : ∀ c ∈ gap, isSecretSeparator c = true)
    (hx : ∀ c ∈ x, isSecretChar c = true) (hlength : 3 ≤ x.length)
    (hy : ∀ d ∈ y.head?, isSecretChar d = false) :
    ∃ r, afterSeparators? (gap ++ (x ++ y)) = some r ∧ r <:+ y := by
  induction gap with
  | nil =>
    have hsome : (afterSeparators? (x ++ y)).isSome = true := by
      have hsecret : afterSecret? (x ++ y) = some (dropQuoteMark y) := by
        rw [afterSecret?_append hx hy, if_pos hlength]
      cases x with
      | nil => cases hlength
      | cons c x =>
        rw [List.cons_append] at hsecret ⊢
        rw [afterSeparators?]
        split
        · rw [hsecret, Option.isSome_or]
          exact Bool.or_true _
        · rw [dropQuoteMark_cons (List.forall_mem_cons.1 hx).1, hsecret]
          rfl
    obtain ⟨r, hr⟩ := Option.isSome_iff_exists.1 hsome
    exact ⟨r, hr, suffix_of_afterSeparators? hx hy hr⟩
  | cons c gap ih =>
    obtain ⟨hc, hgap⟩ := List.forall_mem_cons.1 hgap
    obtain ⟨r, hr, hsuffix⟩ := ih hgap
    refine ⟨r, ?_, hsuffix⟩
    rw [List.cons_append, afterSeparators?, if_pos hc, hr, Option.some_or]

/-- A secret in which mail addresses are masked is a row of secret characters. -/
theorem isSecretChar_of_mem_redactMail (hx : ∀ c ∈ x, isSecretChar c = true)
    (hc : c ∈ redactMail x) : isSecretChar c = true := by
  have hmask : mailMask.all isSecretChar = true := by decide
  rcases mem_of_mem_redactMail hc with hc | hc
  · exact hx c hc
  · exact List.all_eq_true.1 hmask c hc

/-- It does not get too short for a secret. -/
theorem three_le_length_redactMail (h : 3 ≤ x.length) : 3 ≤ (redactMail x).length := by
  have hlength := min_le_length_redactMailFrom [] x
  rw [List.length_nil] at hlength
  rw [redactMail]
  omega

/-! ### What runs into a label -/

/-- A row of one class of characters ends before a character of another class. -/
theorem exists_of_append_eq {p : Char → Bool} (hx : ∀ c ∈ x, p c = true) (hd : p d = false)
    (h : x ++ y = s ++ d :: t) : ∃ z, s = x ++ z ∧ y = z ++ d :: t := by
  rcases List.append_eq_append_iff.1 h with ⟨z, hs, hy⟩ | ⟨z, hs, hy⟩
  · exact ⟨z, hs, hy⟩
  · cases z with
    | nil => exact ⟨[], by rw [hs, List.append_nil, List.append_nil], hy.symm⟩
    | cons c z =>
      rw [List.cons_append, List.cons.injEq] at hy
      rw [hx d (by rw [hs, hy.1]; exact List.mem_append_right s List.mem_cons_self)] at hd
      cases hd

/-- **Where a secret goes on** with a character that is no separator and no quote, the text
before has begun it. -/
theorem BeginsSecret.of_append (h : BeginsSecret (s ++ d :: t))
    (hseparator : isSecretSeparator d = false) (hquote : isQuoteMark d = false) :
    BeginsSecret s := by
  obtain ⟨gap, quote, start, hs, hgap, hlength, hmark, hstart⟩ := h
  obtain ⟨z, rfl, hz⟩ := exists_of_append_eq hgap hseparator hs.symm
  obtain ⟨start', rfl, rfl⟩ := exists_of_append_eq hmark hquote hz
  exact ⟨gap, quote, start', rfl, hgap, hlength, hmark, (List.forall_mem_append.1 hstart).1⟩

/-- **A match that runs into a label** has opened its secret before that label: it does not take
the beginning of the label for the end of its own, since no label ends with another. -/
theorem beginsSecret_of_append_eq (hlabel : IsLabel label) (he : isSecretSeparator e = true)
    (hx : IsLabel x) (hd : isSecretSeparator d = true) {opening b k z w : List Char}
    (hopening : BeginsSecret opening) (hb : b ≠ []) (hk : k ≠ [])
    (h : label ++ e :: opening = b ++ k) (hnext : k ++ z = x ++ d :: w) :
    ∃ b', b = label ++ e :: b' ∧ BeginsSecret b' := by
  obtain ⟨a, k', rfl⟩ := List.exists_cons_of_ne_nil hk
  have ha : a ∈ x := by
    obtain ⟨a', x', rfl⟩ := List.exists_cons_of_ne_nil hx.ne_nil
    rw [List.cons_append, List.cons_append, List.cons.injEq] at hnext
    rw [hnext.1]
    exact List.mem_cons_self
  rcases List.append_eq_append_iff.1 h with ⟨b', rfl, hb'⟩ | ⟨m, rfl, hm⟩
  · cases b' with
    | nil =>
      rw [List.nil_append, List.cons.injEq] at hb'
      rw [hb'.1, hx.not_isSecretSeparator ha] at he
      cases he
    | cons e' b' =>
      rw [List.cons_append, List.cons.injEq] at hb'
      obtain ⟨rfl, rfl⟩ := hb'
      exact ⟨b', rfl, hopening.of_append (hx.not_isSecretSeparator ha) (hx.not_isQuoteMark ha)⟩
  · -- the match would read the other label as the end of its own
    rw [hm, List.append_assoc, List.cons_append] at hnext
    have hlabel' : ∀ c ∈ m, (!isSecretSeparator c) = true := by
      intro c hc
      rw [hlabel.not_isSecretSeparator (List.mem_append_right b hc)]
      rfl
    obtain ⟨m', rfl, hm'⟩ := exists_of_append_eq hlabel' (by rw [hd]; rfl) hnext
    cases m' with
    | nil =>
      rw [List.append_nil] at hx
      exact absurd (hx.eq_nil_of_append hlabel) hb
    | cons e' m' =>
      rw [List.cons_append, List.cons.injEq] at hm'
      have hmem : e ∈ m ++ e' :: m' := by
        rw [hm'.1]
        exact List.mem_append_right m List.mem_cons_self
      rw [hx.not_isSecretSeparator hmem] at he
      cases he

/-! ### The pass over secrets -/

theorem redactSecrets_of_splitSecret? (h : splitSecret? s = some (label, r)) :
    redactSecrets s = label ++ secretMask ++ redactSecrets r := by
  cases s with
  | nil => cases h
  | cons c s =>
    rw [redactSecrets]
    split
    · next hsplit =>
      rw [h] at hsplit
      cases hsplit
      rfl
    · next hnone =>
      rw [h] at hnone
      cases hnone

theorem redactSecrets_cons (h : splitSecret? (c :: s) = none) :
    redactSecrets (c :: s) = c :: redactSecrets s := by
  rw [redactSecrets]
  split
  · next hsplit =>
    rw [h] at hsplit
    cases hsplit
  · rfl

/-- **The pass only masks:** what is in the result is in the text or in the mask. -/
theorem mem_of_mem_redactSecrets (h : c ∈ redactSecrets s) : c ∈ s ∨ c ∈ secretMask := by
  induction hlength : s.length using Nat.strong_induction_on generalizing s with
  | _ length ih =>
    cases s with
    | nil =>
      rw [redactSecrets] at h
      exact absurd h List.not_mem_nil
    | cons d s =>
      cases hsplit : splitSecret? (d :: s) with
      | none =>
        rw [redactSecrets_cons hsplit] at h
        rcases List.mem_cons.1 h with rfl | h
        · exact Or.inl List.mem_cons_self
        · exact (ih s.length (by rw [← hlength]; exact Nat.lt_succ_self _) h rfl).imp_left
            (List.mem_cons_of_mem d)
      | some parts =>
        obtain ⟨label, r⟩ := parts
        rw [redactSecrets_of_splitSecret? hsplit, List.mem_append, List.mem_append] at h
        have hshorter : r.length < length := hlength ▸ length_of_splitSecret? hsplit
        obtain ⟨e, opening, rest, hs, -, -, -, -, hr⟩ := exists_of_splitSecret? hsplit
        rw [hs]
        rcases h with (hlabel | hmask) | hrest
        · left
          exact List.mem_append_left rest (List.mem_append_left _ hlabel)
        · exact Or.inr hmask
        · refine (ih r.length hshorter hrest rfl).imp_left ?_
          intro hmem
          rw [hr] at hmem
          exact List.mem_append_right _ ((dropQuoteMark_suffix rest).mem hmem)

/-- **A labelled secret:** a label, a gap of separators, and a row of at least three characters
of a secret, as long as possible, with what follows it.  A shorter row is no secret. -/
structure LabelledSecret where
  /-- The label, in any case of its letters. -/
  label : List Char
  /-- The separators. -/
  gap : List Char
  /-- The secret. -/
  secret : List Char
  /-- What follows. -/
  after : List Char
  isLabel : IsLabel label
  gap_ne_nil : gap ≠ []
  isSecretSeparator_of_mem_gap : ∀ c ∈ gap, isSecretSeparator c = true
  isSecretChar_of_mem_secret : ∀ c ∈ secret, isSecretChar c = true
  three_le_length : 3 ≤ secret.length
  not_isSecretChar_of_mem_head? : ∀ d ∈ after.head?, isSecretChar d = false

namespace LabelledSecret

variable (l : LabelledSecret)

/-- The text of a labelled secret. -/
def text : List Char :=
  l.label ++ (l.gap ++ (l.secret ++ l.after))

/-- **The match at the label** takes the whole secret. -/
theorem splitSecret?_text : ∃ r, splitSecret? l.text = some (l.label, r) ∧ r <:+ l.after := by
  obtain ⟨e, gap, hgap⟩ := List.exists_cons_of_ne_nil l.gap_ne_nil
  obtain ⟨he, hrest⟩ := List.forall_mem_cons.1 (hgap ▸ l.isSecretSeparator_of_mem_gap)
  obtain ⟨r, hr, hsuffix⟩ := exists_afterSeparators?_append hrest l.isSecretChar_of_mem_secret
    l.three_le_length l.not_isSecretChar_of_mem_head?
  have hlabel : splitLabel? l.text = some (l.label, l.gap ++ (l.secret ++ l.after)) :=
    splitLabel?_eq_some_iff.2 ⟨rfl, l.isLabel⟩
  have hafter : afterLabelled? (l.gap ++ (l.secret ++ l.after)) = some r := by
    rw [hgap, List.cons_append, afterLabelled?, if_pos he, hr]
  refine ⟨r, ?_, hsuffix⟩
  simp only [splitSecret?, hlabel, Option.bind_some, hafter, Option.map_some]

/-- Nothing is dropped at the beginning of a label. -/
theorem exists_of_dropQuoteMark (z : List Char) :
    ∃ b, b <:+ z ∧ dropQuoteMark (z ++ l.text) = b ++ l.text := by
  cases z with
  | nil =>
    obtain ⟨a, label, hlabel⟩ := List.exists_cons_of_ne_nil l.isLabel.ne_nil
    refine ⟨[], List.suffix_refl _, ?_⟩
    have ha := l.isLabel.isSecretChar (hlabel ▸ List.mem_cons_self)
    rw [List.nil_append, text, hlabel, List.cons_append, dropQuoteMark_cons ha]
  | cons q z =>
    rw [List.cons_append, dropQuoteMark]
    split
    · exact ⟨z, List.suffix_cons q z, rfl⟩
    · exact ⟨q :: z, List.suffix_refl _, rfl⟩

/-- A secret that reaches into a labelled secret without white space in its gap ends where that
one ends. -/
theorem suffix_after (hgap : ∀ c ∈ l.gap, isBlank c = false) {k rest : List Char}
    (hrest : ∀ d ∈ rest.head?, isSecretChar d = false) (h : l.text = k ++ rest) :
    rest <:+ l.after := by
  have hsecret : ∀ c ∈ l.label ++ (l.gap ++ l.secret), isSecretChar c = true := by
    intro c hc
    rcases List.mem_append.1 hc with hlabel | hc
    · exact l.isLabel.isSecretChar hlabel
    · rcases List.mem_append.1 hc with hmem | hmem
      · exact isSecretChar_of_isSecretSeparator (l.isSecretSeparator_of_mem_gap c hmem)
          (hgap c hmem)
      · exact l.isSecretChar_of_mem_secret c hmem
  cases rest with
  | nil => exact List.nil_suffix
  | cons d rest =>
    rw [text, ← List.append_assoc l.gap, ← List.append_assoc] at h
    obtain ⟨z, -, hz⟩ := exists_of_append_eq hsecret (hrest d rfl) h
    exact ⟨z, hz.symm⟩

/-- **A match that begins before the label** ends before it, or has opened its secret before it;
then it takes the labelled secret as a whole if the gap has no white space. -/
theorem splitSecret?_append {before : List Char} (hbefore : before ≠ [])
    (h : splitSecret? (before ++ l.text) = some (label, r)) :
    ∃ z, before = label ++ z ∧ ((∃ b, b <:+ z ∧ r = b ++ l.text) ∨
      (OpensSecret before ∧ ((∀ c ∈ l.gap, isBlank c = false) → r <:+ l.after))) := by
  obtain ⟨e, opening, rest, hs, hlabel, he, hopening, hrest, rfl⟩ := exists_of_splitSecret? h
  have hbeyond (z : List Char) (hz : rest = z ++ l.text) :
      ∃ b, b <:+ z ∧ dropQuoteMark rest = b ++ l.text := hz ▸ l.exists_of_dropQuoteMark z
  rcases List.append_eq_append_iff.1 hs with ⟨k, hk, htext⟩ | ⟨z, rfl, hz⟩
  · rcases eq_or_ne k [] with rfl | hne
    · -- the match ends where the label begins
      rw [List.append_nil] at hk
      obtain ⟨b, hb, hr⟩ := hbeyond [] htext.symm
      exact ⟨e :: opening, hk.symm, Or.inl ⟨b, hb.trans List.nil_suffix, hr⟩⟩
    · obtain ⟨d, gap, hgap⟩ := List.exists_cons_of_ne_nil l.gap_ne_nil
      have hd : isSecretSeparator d = true :=
        l.isSecretSeparator_of_mem_gap d (hgap ▸ List.mem_cons_self)
      have hnext : k ++ rest = l.label ++ d :: (gap ++ (l.secret ++ l.after)) := by
        rw [← htext, text, hgap, List.cons_append]
      obtain ⟨b, rfl, hb⟩ :=
        beginsSecret_of_append_eq hlabel he l.isLabel hd hopening hbefore hne hk hnext
      refine ⟨e :: b, rfl, Or.inr ⟨⟨[], label, e, b, rfl, hlabel, he, hb⟩, ?_⟩⟩
      intro hblank
      exact (dropQuoteMark_suffix rest).trans (l.suffix_after hblank hrest htext)
  · obtain ⟨b, hb, hr⟩ := hbeyond z hz
    refine ⟨e :: opening ++ z, ?_, Or.inl ⟨b, hb.trans (List.suffix_append _ z), hr⟩⟩
    rw [List.append_assoc]

variable {l}

/-- **The pass takes the secret out of the text:** what is neither before the label, in the
label, in the gap or after the secret, nor in the mask, is not in the result. -/
theorem notMem_redactSecrets {before : List Char}
    (hopens : (∀ c ∈ l.gap, isBlank c = false) ∨ ¬ OpensSecret before)
    (hbefore : c ∉ before) (hlabel : c ∉ l.label) (hafter : c ∉ l.after) (hmask : c ∉ secretMask) :
    c ∉ redactSecrets (before ++ l.text) := by
  induction hlength : before.length using Nat.strong_induction_on generalizing before with
  | _ length ih =>
    -- what follows a match that ends in the last part is in that part
    have hend {r : List Char} (hr : r <:+ l.after) : c ∉ redactSecrets r := fun hmem =>
      (mem_of_mem_redactSecrets hmem).elim (fun hc => hafter (hr.mem hc)) hmask
    cases before with
    | nil =>
      obtain ⟨r, hr, hsuffix⟩ := l.splitSecret?_text
      rw [List.nil_append, redactSecrets_of_splitSecret? hr, List.mem_append, List.mem_append]
      rintro ((hc | hc) | hc)
      · exact hlabel hc
      · exact hmask hc
      · exact hend hsuffix hc
    | cons d front =>
      -- the same for what follows a match that ends before the label
      have hagain {b : List Char} (hb : b <:+ d :: front) (hshorter : b.length < length) :
          c ∉ redactSecrets (b ++ l.text) :=
        ih b.length hshorter (hopens.imp_right fun hnot hopen => hnot (hopen.of_isSuffix hb))
          (fun hc => hbefore (hb.mem hc)) rfl
      cases hsplit : splitSecret? (d :: front ++ l.text) with
      | none =>
        rw [List.cons_append] at hsplit ⊢
        rw [redactSecrets_cons hsplit, List.mem_cons]
        rintro (hc | hc)
        · exact hbefore (hc ▸ List.mem_cons_self)
        · exact hagain (List.suffix_cons d front) (hlength ▸ Nat.lt_succ_self _) hc
      | some parts =>
        obtain ⟨label, r⟩ := parts
        obtain ⟨z, hz, hmatch⟩ := l.splitSecret?_append (List.cons_ne_nil d front) hsplit
        rw [redactSecrets_of_splitSecret? hsplit, List.mem_append, List.mem_append]
        rintro ((hc | hc) | hc)
        · exact hbefore (hz ▸ List.mem_append_left z hc)
        · exact hmask hc
        · rcases hmatch with ⟨b, hb, rfl⟩ | ⟨hopen, hgap⟩
          · have hshorter := length_of_splitSecret? hsplit
            rw [List.length_append, List.length_append, hlength] at hshorter
            exact hagain (hb.trans ⟨label, hz.symm⟩) (by omega) hc
          · exact hend (hgap (hopens.resolve_right fun hnot => hnot hopen)) hc

/-! ### Both passes -/

variable (l)

theorem not_isMailChar_of_mem_head? : ∀ d ∈ l.after.head?, isMailChar d = false :=
  fun d hd => not_isMailChar_of_not_isSecretChar (l.not_isSecretChar_of_mem_head? d hd)

/-- The labelled secret after the pass over mail addresses.  This pass comes first and may
change the secret and what follows it, but there is still a secret with the same label. -/
def withoutMail : LabelledSecret where
  label := l.label
  gap := l.gap
  secret := redactMail l.secret
  after := redactMail l.after
  isLabel := l.isLabel
  gap_ne_nil := l.gap_ne_nil
  isSecretSeparator_of_mem_gap := l.isSecretSeparator_of_mem_gap
  isSecretChar_of_mem_secret _ := isSecretChar_of_mem_redactMail l.isSecretChar_of_mem_secret
  three_le_length := three_le_length_redactMail l.three_le_length
  not_isSecretChar_of_mem_head? :=
    (head?_redactMail l.not_isMailChar_of_mem_head?).symm ▸ l.not_isSecretChar_of_mem_head?

/-- **The pass over mail addresses rewrites the parts,** if no address runs into the label. -/
theorem redactMail_text {before : List Char} (hmail : ¬ OpensMail before) :
    redactMail (before ++ l.text) = redactMail before ++ l.withoutMail.text := by
  have hgap : ∀ c ∈ l.gap, isMailChar c = false := fun c hc =>
    (not_isMailChar_of_isSecretSeparator (l.isSecretSeparator_of_mem_gap c hc)).1
  have hhead : ∀ d ∈ (l.gap ++ (l.secret ++ l.after)).head?, isMailChar d = false := by
    obtain ⟨e, gap, hcons⟩ := List.exists_cons_of_ne_nil l.gap_ne_nil
    rw [hcons, List.cons_append]
    rintro d ⟨⟩
    exact hgap e (hcons ▸ List.mem_cons_self)
  have hat : '@' ∉ l.label := l.isLabel.notMem (by decide) (by decide)
  have hpoint : '.' ∉ l.label := l.isLabel.notMem (by decide) (by decide)
  calc redactMail (before ++ l.text)
      = redactMail (before ++ l.label ++ (l.gap ++ (l.secret ++ l.after))) := by
        rw [text, List.append_assoc]
    _ = redactMail (before ++ l.label) ++ redactMail (l.gap ++ (l.secret ++ l.after)) :=
        redactMail_append_of_head? hhead _
    _ = redactMail before ++ l.label ++ (l.gap ++ redactMail (l.secret ++ l.after)) := by
        rw [redactMail_append hat hpoint hmail, redactMail_append_of_forall hgap]
    _ = redactMail before ++ l.withoutMail.text := by
        rw [redactMail_append_of_head? l.not_isMailChar_of_mem_head?, List.append_assoc]
        rfl

end LabelledSecret

/-- What opens a secret when the mail addresses are gone opened it before. -/
theorem OpensSecret.of_redactMail (h : OpensSecret (redactMail s)) : OpensSecret s := by
  obtain ⟨front, label, e, opening, hs, hlabel, he, gap, quote, start, rfl, hgap, hlength, hquote,
    hstart⟩ := h
  have he' := not_isMailChar_of_isSecretSeparator he
  rw [← List.append_assoc] at hs
  obtain ⟨x, y, rfl, hx, hy⟩ := exists_of_redactMail_eq he'.1 he'.2 hs
  -- the label is the end of a part, and the other separators and the quote begin the next one
  have hasterisk : '*' ∉ label := hlabel.notMem (by decide) (by decide)
  obtain ⟨front', rfl⟩ : label <:+ x :=
    suffix_of_suffix_redactMail hasterisk (hx ▸ List.suffix_append front label)
  have hkept : ∀ c ∈ gap ++ quote, isMailChar c = false ∧ c ≠ '*' := by
    intro c hc
    rcases List.mem_append.1 hc with hc | hc
    · exact not_isMailChar_of_isSecretSeparator (hgap c hc)
    · exact not_isMailChar_of_isQuoteMark (hquote c hc)
  rw [← List.append_assoc] at hy
  obtain ⟨start', rfl, rfl⟩ := exists_of_redactMail_eq_append hkept hy
  refine ⟨front', label, e, gap ++ quote ++ start', List.append_assoc .., hlabel, he, gap, quote,
    start', List.append_assoc .., hgap, hlength, hquote, ?_⟩
  intro c hc
  rcases isMailChar_or_mem_redactMail hc with hmail | hmem
  · exact isSecretChar_of_isMailChar hmail
  · exact hstart c hmem

/-- **Redaction takes a labelled secret out of a text** that ends in the beginning of no mail
address before it, and in the beginning of no other secret, or has no white space in its gap: a
character that stands nowhere else in the text is not in the result.

The conditions are there because a text is masked from left to right.  A label whose gap has
white space in it may itself be taken as the secret of a label before it, and then its own
secret is left. -/
theorem notMem_redactText (before : List Char) (l : LabelledSecret) (hmail : ¬ OpensMail before)
    (hopens : (∀ c ∈ l.gap, isBlank c = false) ∨ ¬ OpensSecret before)
    (hc : c ∉ before ++ (l.label ++ (l.gap ++ l.after))) (hmask : c ∉ ['*', '=', '@']) :
    c ∉ redactText (before ++ l.text) := by
  simp only [List.mem_append, not_or] at hc
  obtain ⟨hbefore, hlabel, -, hafter⟩ := hc
  have hmasks : mailMask ++ secretMask ⊆ ['*', '=', '@'] := by decide
  have hmail' : c ∉ mailMask := fun h => hmask (hmasks (List.mem_append_left _ h))
  have hsecret : c ∉ secretMask := fun h => hmask (hmasks (List.mem_append_right _ h))
  have hout {s : List Char} (hs : c ∉ s) : c ∉ redactMail s := fun h =>
    (mem_of_mem_redactMail h).elim hs hmail'
  rw [redactText, l.redactMail_text hmail]
  refine LabelledSecret.notMem_redactSecrets ?_ (hout hbefore) hlabel (hout hafter) hsecret
  exact hopens.imp_right fun hnot hopen => hnot hopen.of_redactMail

/-- A password, with its label. -/
def password : LabelledSecret where
  label := "Password".toList
  gap := ": ".toList
  secret := "hunter22".toList
  after := []
  isLabel := by decide
  gap_ne_nil := by decide
  isSecretSeparator_of_mem_gap := List.all_eq_true.1 (by decide)
  isSecretChar_of_mem_secret := List.all_eq_true.1 (by decide)
  three_le_length := by decide
  not_isSecretChar_of_mem_head? := fun _ h => nomatch h

/-- In `id Password: hunter22` the row of characters before the label is too short for another
one. -/
theorem notMem_redactText_password :
    ¬ OpensMail "id ".toList ∧ ¬ OpensSecret "id ".toList ∧
      'h' ∉ redactText ("id ".toList ++ password.text) := by
  have hmail : ¬ OpensMail "id ".toList := by
    rintro ⟨front, mailbox, domain, top, h, -⟩
    have hat : '@' ∈ "id ".toList := by
      rw [h]
      exact List.mem_append_right _ (List.mem_cons_of_mem _ List.mem_cons_self)
    exact absurd hat (by decide)
  have hopens : ¬ OpensSecret "id ".toList := by
    rintro ⟨front, label, e, opening, h, hlabel, -⟩
    have hfive := hlabel.five_le_length
    have hlength := congrArg List.length h
    rw [List.length_append, List.length_append] at hlength
    have hthree : "id ".toList.length = 3 := rfl
    omega
  refine ⟨hmail, hopens, ?_⟩
  exact notMem_redactText "id ".toList password hmail (Or.inr hopens) (by decide) (by decide)

/-- A label that an open mail address runs into is masked as its top-level domain. -/
example : redactText "a@b.token=xyz".toList = "***@***=xyz".toList := by
  decide +kernel

/-- **An earlier label takes the later one for its secret,** and the secret of the later one is
left over: in `token: Password: hunter22`, for one. -/
theorem exists_mem_redactText :
    ∃ (before : List Char) (l : LabelledSecret) (c : Char), c ∈ l.secret ∧
      c ∉ before ++ (l.label ++ (l.gap ++ l.after)) ∧ c ∉ ['*', '=', '@'] ∧
      c ∈ redactText (before ++ l.text) :=
  ⟨"token: ".toList, password, 'h', by decide, by decide, by decide, by decide +kernel⟩

end RecordFlow.Log
