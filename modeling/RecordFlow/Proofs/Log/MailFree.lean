import Mathlib.Data.List.Lattice
import RecordFlow.Proofs.Log.LabelledSecrets

/-!
# No mail address is left

A redacted text is free of mail addresses (`isMailFree_redactText`): no part of it is a mailbox,
the sign, a domain, a point and a top-level domain of at least two letters (`MailAddress`).

Both passes write masks, and a mask keeps the parts on its two sides apart: an address has no
asterisk and no equals sign in it.  So an address in the result would lie between two masks.

* **The pass over secrets** copies what lies there from its text, the label of a masked secret
  included (`infix_of_infix_redactSecrets`).  It cannot bring an address into being.
* **The pass over mail addresses** copies it, too, but then it has passed over the sign of that
  address, with a mailbox before it, and has found no domain behind it.  What stands behind the
  sign in the result begins as the text does there (`prefix_of_prefix_redactMailFrom`), and a
  text that begins with a domain is seen to do so (`isSome_afterDomain?`).

Conversely, the pass over mail addresses leaves a text alone that is free of them
(`redactMail_eq_self_iff`), so that it changes exactly what it is there for, and whether a text
is free of them can be decided.

## Main definitions

* `MailAddress` — the parts of a mail address.
* `IsMailFree` — no part of a text is a mail address.
-/

namespace RecordFlow.Log

open Text

variable {e : Char} {s r t x y held mask label domain top : List Char}

/-- **A mail address:** a mailbox, the sign, a domain, a point and a top-level domain.  The
parts are told by their characters alone, as the pass over a text tells them. -/
structure MailAddress where
  /-- What stands before the sign. -/
  mailbox : List Char
  /-- What stands between the sign and the last point. -/
  domain : List Char
  /-- What stands behind the last point. -/
  top : List Char
  mailbox_ne_nil : mailbox ≠ []
  isMailboxChar_of_mem_mailbox : ∀ c ∈ mailbox, isMailboxChar c = true
  domain_ne_nil : domain ≠ []
  isDomainChar_of_mem_domain : ∀ c ∈ domain, isDomainChar c = true
  two_le_length : 2 ≤ top.length
  isAsciiLetter_of_mem_top : ∀ c ∈ top, isAsciiLetter c = true

namespace MailAddress

variable (a : MailAddress)

/-- The text of a mail address. -/
def text : List Char :=
  a.mailbox ++ '@' :: (a.domain ++ '.' :: a.top)

theorem at_mem_text : '@' ∈ a.text :=
  List.mem_append_right _ List.mem_cons_self

theorem point_mem_text : '.' ∈ a.text :=
  List.mem_append_right _ (List.mem_cons_of_mem _ (List.mem_append_right _ List.mem_cons_self))

theorem isMailChar_of_mem_text {c : Char} (hc : c ∈ a.text) : isMailChar c = true := by
  have hdomain {d : Char} (hd : isDomainChar d = true) : isMailChar d = true := by
    rw [isMailChar, isMailboxChar_of_isDomainChar hd, Bool.true_or]
  simp only [text, List.mem_append, List.mem_cons] at hc
  rcases hc with hc | rfl | hc | rfl | hc
  · rw [isMailChar, a.isMailboxChar_of_mem_mailbox c hc, Bool.true_or]
  · rfl
  · exact hdomain (a.isDomainChar_of_mem_domain c hc)
  · rfl
  · exact hdomain (isDomainChar_of_isAsciiLetter (a.isAsciiLetter_of_mem_top c hc))

/-- An address is written in the characters of addresses alone. -/
theorem notMem_text (h : isMailChar e = false) : e ∉ a.text := by
  intro he
  rw [a.isMailChar_of_mem_text he] at h
  cases h

theorem at_notMem_mailbox : '@' ∉ a.mailbox :=
  fun h => absurd (a.isMailboxChar_of_mem_mailbox _ h) (by decide)

end MailAddress

/-- **A text is free of mail addresses:** no part of it is one.  This says more than that none
is found in one pass, since what is left of a pass could form an address with what stands around
it. -/
def IsMailFree (s : List Char) : Prop :=
  ∀ a : MailAddress, ¬ a.text <:+: s

/-! ### Parts between masks -/

/-- A beginning without a character ends before that character. -/
theorem prefix_of_prefix_append_cons (he : e ∉ t) (h : t <+: x ++ e :: y) : t <+: x := by
  rcases List.prefix_or_prefix_of_prefix h (List.prefix_append x (e :: y)) with h' | ⟨z, rfl⟩
  · exact h'
  · rw [List.prefix_append_right_inj] at h
    rcases List.prefix_cons_iff.1 h with rfl | ⟨z, rfl, -⟩
    · exact ⟨[], by rw [List.append_nil, List.append_nil]⟩
    · exact absurd (List.mem_append_right x List.mem_cons_self) he

/-- A part without a character lies before that character or behind it. -/
theorem infix_of_infix_append_cons (he : e ∉ t) (h : t <:+: x ++ e :: y) :
    t <:+: x ∨ t <:+: y := by
  rcases List.infix_append_iff.1 h with hx | hy | ⟨u, v, rfl, hu, hv⟩
  · exact Or.inl hx
  · rcases List.infix_cons_iff.1 hy with hstarts | hy
    · rcases List.prefix_cons_iff.1 hstarts with rfl | ⟨z, rfl, -⟩
      · exact Or.inl List.nil_infix
      · exact absurd List.mem_cons_self he
    · exact Or.inr hy
  · rcases List.prefix_cons_iff.1 hv with rfl | ⟨z, rfl, -⟩
    · rw [List.append_nil]
      exact Or.inl hu.isInfix
    · exact absurd (List.mem_append_right u List.mem_cons_self) he

/-- A part without the characters of a mask lies before the mask or behind it. -/
theorem infix_of_infix_append_mask (hmask : mask ≠ []) (ht : t.Disjoint mask)
    (h : t <:+: x ++ (mask ++ y)) : t <:+: x ∨ t <:+: y := by
  induction mask generalizing x with
  | nil => exact absurd rfl hmask
  | cons e mask ih =>
    obtain ⟨he, ht⟩ := List.disjoint_cons_right.1 ht
    rcases infix_of_infix_append_cons he h with hx | hrest
    · exact Or.inl hx
    · rcases eq_or_ne mask [] with rfl | hne
      · exact Or.inr hrest
      · refine (ih hne ht (x := []) hrest).imp_left ?_
        intro hnil
        rw [List.infix_nil.1 hnil]
        exact List.nil_infix

/-! ### The pass over secrets -/

/-- What a label is read from begins with it. -/
theorem prefix_of_splitSecret? (h : splitSecret? s = some (label, r)) : label <+: s := by
  obtain ⟨e, opening, rest, rfl, -⟩ := exists_of_splitSecret? h
  rw [List.append_assoc]
  exact List.prefix_append ..

/-- What follows a labelled secret is an end of the text. -/
theorem suffix_of_splitSecret? (h : splitSecret? s = some (label, r)) : r <:+ s := by
  obtain ⟨e, opening, rest, rfl, -, -, -, -, rfl⟩ := exists_of_splitSecret? h
  exact (dropQuoteMark_suffix rest).trans (List.suffix_append ..)

/-- A beginning of the result without the mask in it is a beginning of the text. -/
theorem prefix_of_prefix_redactSecrets (ht : t.Disjoint secretMask)
    (h : t <+: redactSecrets s) : t <+: s := by
  induction t generalizing s with
  | nil => exact List.nil_prefix
  | cons c t ih =>
    cases s with
    | nil =>
      rw [redactSecrets] at h
      exact h
    | cons d s =>
      cases hsplit : splitSecret? (d :: s) with
      | none =>
        rw [redactSecrets_cons hsplit, List.cons_prefix_cons] at h
        rw [List.cons_prefix_cons]
        exact ⟨h.1, ih (List.disjoint_cons_left.1 ht).2 h.2⟩
      | some parts =>
        rw [redactSecrets_of_splitSecret? hsplit, List.append_assoc] at h
        have hequals : '=' ∉ c :: t := fun hmem => ht hmem (by decide)
        exact (prefix_of_prefix_append_cons hequals h).trans (prefix_of_splitSecret? hsplit)

/-- **The pass over secrets makes nothing new:** a part of the result without the mask in it is
a part of the text. -/
theorem infix_of_infix_redactSecrets (ht : t.Disjoint secretMask)
    (h : t <:+: redactSecrets s) : t <:+: s := by
  -- on the length, since a masked secret is passed over as a whole
  induction hlength : s.length using Nat.strong_induction_on generalizing s with
  | _ length ih =>
    cases s with
    | nil =>
      rw [redactSecrets] at h
      exact h
    | cons d s =>
      cases hsplit : splitSecret? (d :: s) with
      | none =>
        have hcopied := redactSecrets_cons hsplit
        rw [hcopied] at h
        rcases List.infix_cons_iff.1 h with hstarts | hrest
        · rw [← hcopied] at hstarts
          exact (prefix_of_prefix_redactSecrets ht hstarts).isInfix
        · have hshorter : s.length < length := hlength ▸ Nat.lt_succ_self _
          exact (ih s.length hshorter hrest rfl).trans (List.suffix_cons d s).isInfix
      | some parts =>
        obtain ⟨label, r⟩ := parts
        rw [redactSecrets_of_splitSecret? hsplit, List.append_assoc] at h
        rcases infix_of_infix_append_mask (by decide) ht h with hlabel | hrest
        · exact hlabel.trans (prefix_of_splitSecret? hsplit).isInfix
        · have hshorter : r.length < length := hlength ▸ length_of_splitSecret? hsplit
          exact (ih r.length hshorter hrest rfl).trans (suffix_of_splitSecret? hsplit).isInfix

/-! ### Domains are seen -/

theorem isSome_afterTopLevel? (htop : ∀ c ∈ top, isAsciiLetter c = true) (hlength : 2 ≤ top.length)
    (s : List Char) : (afterTopLevel? (top ++ s)).isSome = true := by
  have hrow : 2 ≤ ((top ++ s).takeWhile isAsciiLetter).length := by
    rw [List.takeWhile_append_of_pos htop, List.length_append]
    omega
  rw [afterTopLevel?, if_pos hrow]
  rfl

theorem isSome_afterDomainRest? (hdomain : ∀ c ∈ domain, isDomainChar c = true)
    (htop : ∀ c ∈ top, isAsciiLetter c = true) (hlength : 2 ≤ top.length) (s : List Char) :
    (afterDomainRest? (domain ++ '.' :: (top ++ s))).isSome = true := by
  induction domain with
  | nil =>
    rw [List.nil_append, afterDomainRest?, if_pos (by decide), if_pos rfl, Option.isSome_or,
      isSome_afterTopLevel? htop hlength, Bool.or_true]
  | cons c domain ih =>
    obtain ⟨hc, hdomain⟩ := List.forall_mem_cons.1 hdomain
    rw [List.cons_append, afterDomainRest?, if_pos hc, Option.isSome_or, ih hdomain, Bool.true_or]

/-- **A text that begins with a domain is seen to do so.** -/
theorem isSome_afterDomain? (hne : domain ≠ []) (hdomain : ∀ c ∈ domain, isDomainChar c = true)
    (htop : ∀ c ∈ top, isAsciiLetter c = true) (hlength : 2 ≤ top.length) (s : List Char) :
    (afterDomain? (domain ++ '.' :: (top ++ s))).isSome = true := by
  obtain ⟨c, domain, rfl⟩ := List.exists_cons_of_ne_nil hne
  obtain ⟨hc, hdomain⟩ := List.forall_mem_cons.1 hdomain
  rw [List.cons_append, afterDomain?, if_pos hc]
  exact isSome_afterDomainRest? hdomain htop hlength s

/-! ### The pass over mail addresses -/

/-- **A beginning of the result without an asterisk is a beginning of the text.** -/
theorem prefix_of_prefix_redactMailFrom (ht : '*' ∉ t) (h : t <+: redactMailFrom held s) :
    t <+: held.reverse ++ s := by
  induction held, s using redactMailFrom_induction generalizing t with
  | nil held =>
    rw [redactMailFrom] at h
    rwa [List.append_nil]
  | mailbox held c s hc ih =>
    rw [redactMailFrom_mailbox hc] at h
    have hbegin := ih ht h
    rwa [List.reverse_cons, List.append_assoc] at hbegin
  | address held s r hheld hr ih =>
    rw [redactMailFrom_address hheld hr] at h
    have hnil : t <+: [] := prefix_of_prefix_append_cons (x := []) ht h
    exact hnil.trans List.nil_prefix
  | other held c s hc hat ih =>
    rw [redactMailFrom_other hc hat, List.append_cons] at h
    rw [List.append_cons]
    rcases List.prefix_or_prefix_of_prefix h (List.prefix_append (held.reverse ++ [c]) _) with
      hshort | ⟨z, rfl⟩
    · exact hshort.trans (List.prefix_append _ s)
    · rw [List.prefix_append_right_inj] at h ⊢
      exact ih (fun hmem => ht (List.mem_append_right _ hmem)) h

/-- **The sign of an address in a text is the first sign of the text, or the address stands
behind that sign.** -/
theorem MailAddress.infix_cases (a : MailAddress) (hx : '@' ∉ x) (h : a.text <:+: x ++ '@' :: y) :
    (a.mailbox <:+ x ∧ a.domain ++ '.' :: a.top <+: y) ∨ a.text <:+: y := by
  rcases List.infix_append_iff.1 h with hinner | hinner | ⟨u, v, huv, hu, hv⟩
  · exact absurd (hinner.mem a.at_mem_text) hx
  · refine (List.infix_cons_iff.1 hinner).imp_left ?_
    intro hstarts
    obtain ⟨c, mailbox, hmailbox⟩ := List.exists_cons_of_ne_nil a.mailbox_ne_nil
    rw [text, hmailbox, List.cons_append, List.cons_prefix_cons] at hstarts
    exact absurd (hmailbox ▸ hstarts.1 ▸ List.mem_cons_self) a.at_notMem_mailbox
  · left
    -- the first part has no sign in it, so it ends in the mailbox
    rcases List.append_eq_append_iff.1 huv with ⟨z, rfl, hz⟩ | ⟨z, hmailbox, rfl⟩
    · cases z with
      | nil =>
        rw [List.nil_append] at hz
        rw [← hz, List.cons_prefix_cons] at hv
        rw [List.append_nil] at hu
        exact ⟨hu, hv.2⟩
      | cons c z =>
        rw [List.cons_append, List.cons.injEq] at hz
        have hsign : '@' ∈ a.mailbox ++ c :: z := hz.1 ▸ List.mem_append_right _ List.mem_cons_self
        exact absurd (hu.mem hsign) hx
    · cases z with
      | nil =>
        rw [List.nil_append, List.cons_prefix_cons] at hv
        rw [List.append_nil] at hmailbox
        exact ⟨hmailbox ▸ hu, hv.2⟩
      | cons c z =>
        rw [List.cons_append, List.cons_prefix_cons] at hv
        have hsign : '@' ∈ a.mailbox := by
          rw [hmailbox, hv.1]
          exact List.mem_append_right _ List.mem_cons_self
        exact absurd hsign a.at_notMem_mailbox

/-- A row of characters of mailboxes has no sign in it. -/
theorem at_notMem_reverse (hheld : ∀ d ∈ held, isMailboxChar d = true) : '@' ∉ held.reverse :=
  fun h => absurd (hheld _ (List.mem_reverse.1 h)) (by decide)

/-- The mask of mail addresses keeps addresses apart. -/
theorem MailAddress.infix_of_infix_mask (a : MailAddress) (h : a.text <:+: mailMask ++ y) :
    a.text <:+: y := by
  have hsplit : mailMask ++ y = ['*', '*', '*', '@', '*', '*'] ++ '*' :: y := rfl
  rw [hsplit] at h
  refine (infix_of_infix_append_cons (a.notMem_text (by decide)) h).resolve_left ?_
  intro hmask
  exact absurd (hmask.mem a.point_mem_text) (by decide)

theorem not_infix_redactMailFrom (a : MailAddress) (hheld : ∀ d ∈ held, isMailboxChar d = true) :
    ¬ a.text <:+: redactMailFrom held s := by
  induction held, s using redactMailFrom_induction with
  | nil held =>
    rw [redactMailFrom]
    exact fun h => at_notMem_reverse hheld (h.mem a.at_mem_text)
  | mailbox held c s hc ih =>
    rw [redactMailFrom_mailbox hc]
    exact ih (List.forall_mem_cons.2 ⟨hc, hheld⟩)
  | address held s r hne hr ih =>
    rw [redactMailFrom_address hne hr]
    intro h
    exact ih (fun _ hd => absurd hd List.not_mem_nil) (a.infix_of_infix_mask h)
  | other held c s hc hat ih =>
    rw [redactMailFrom_other hc hat]
    intro h
    have hrest : ¬ a.text <:+: redactMailFrom [] s := ih fun _ hd => absurd hd List.not_mem_nil
    rcases eq_or_ne c '@' with rfl | hsign
    · rcases a.infix_cases (at_notMem_reverse hheld) h with ⟨hmailbox, hdomain⟩ | hinner
      · -- the sign is the one of the address, so a domain follows it in the text
        have hne : held ≠ [] := by
          rintro rfl
          exact a.mailbox_ne_nil (List.suffix_nil.1 hmailbox)
        have hasterisk : '*' ∉ a.domain ++ '.' :: a.top := fun hmem =>
          a.notMem_text (e := '*') (by decide)
            (List.mem_append_right _ (List.mem_cons_of_mem _ hmem))
        obtain ⟨rest, hs⟩ := prefix_of_prefix_redactMailFrom hasterisk hdomain
        have hseen := isSome_afterDomain? a.domain_ne_nil a.isDomainChar_of_mem_domain
          a.isAsciiLetter_of_mem_top a.two_le_length rest
        rw [List.append_assoc, List.cons_append] at hs
        rw [hs, List.reverse_nil, List.nil_append, hat rfl hne] at hseen
        cases hseen
      · exact hrest hinner
    · have hmail : isMailChar c = false := by
        rw [isMailChar, hc, Bool.false_or, beq_eq_false_iff_ne]
        exact hsign
      rcases infix_of_infix_append_cons (a.notMem_text hmail) h with hinner | hinner
      · exact at_notMem_reverse hheld (hinner.mem a.at_mem_text)
      · exact hrest hinner

/-- **The pass over mail addresses leaves none of them.** -/
theorem isMailFree_redactMail (s : List Char) : IsMailFree (redactMail s) :=
  fun a => not_infix_redactMailFrom a fun _ hd => absurd hd List.not_mem_nil

/-- A text that is free of addresses is left as it is. -/
theorem redactMailFrom_of_isMailFree (hheld : ∀ d ∈ held, isMailboxChar d = true)
    (h : IsMailFree (held.reverse ++ s)) : redactMailFrom held s = held.reverse ++ s := by
  induction held, s using redactMailFrom_induction with
  | nil held => rw [redactMailFrom, List.append_nil]
  | mailbox held c s hc ih =>
    have hsame : (c :: held).reverse ++ s = held.reverse ++ c :: s := by
      rw [List.reverse_cons, List.append_assoc]
      rfl
    rw [redactMailFrom_mailbox hc, ih (List.forall_mem_cons.2 ⟨hc, hheld⟩) (hsame ▸ h), hsame]
  | address held s r hne hr ih =>
    obtain ⟨domain, top, rfl, hdomain, hchars, htop, hlength⟩ := exists_parts_of_afterDomain? hr
    let found : MailAddress :=
      { mailbox := held.reverse
        domain := domain
        top := top
        mailbox_ne_nil := by rwa [Ne, List.reverse_eq_nil_iff]
        isMailboxChar_of_mem_mailbox := fun c hc => hheld c (List.mem_reverse.1 hc)
        domain_ne_nil := hdomain
        isDomainChar_of_mem_domain := hchars
        two_le_length := hlength
        isAsciiLetter_of_mem_top := htop }
    have hfound : found.text <:+: held.reverse ++ '@' :: (domain ++ '.' :: (top ++ r)) :=
      ⟨[], r, by simp [MailAddress.text, found]⟩
    exact absurd hfound (h found)
  | other held c s hc hat ih =>
    have hs : s <:+ held.reverse ++ c :: s :=
      (List.suffix_cons c s).trans (List.suffix_append _ _)
    rw [redactMailFrom_other hc hat, ih (fun _ hd => absurd hd List.not_mem_nil)
      fun a ha => h a (ha.trans hs.isInfix)]
    rfl

/-- **The pass over mail addresses changes the texts that hold one,** and no others. -/
theorem redactMail_eq_self_iff : redactMail s = s ↔ IsMailFree s := by
  constructor
  · intro h
    rw [← h]
    exact isMailFree_redactMail s
  · exact redactMailFrom_of_isMailFree fun _ hd => absurd hd List.not_mem_nil

instance (s : List Char) : Decidable (IsMailFree s) :=
  decidable_of_iff _ redactMail_eq_self_iff

/-! ### Both passes -/

/-- The mask of secrets has nothing of an address in it. -/
theorem MailAddress.disjoint_secretMask (a : MailAddress) : a.text.Disjoint secretMask := by
  intro c hc hmem
  have hout : isMailChar c = false := by
    rw [secretMask] at hmem
    simp only [List.mem_cons, List.not_mem_nil, or_false, or_self] at hmem
    rcases hmem with rfl | rfl <;> decide
  exact a.notMem_text hout hc

/-- The pass over secrets keeps a text free of mail addresses. -/
theorem IsMailFree.redactSecrets (h : IsMailFree s) : IsMailFree (redactSecrets s) :=
  fun a hinner => h a (infix_of_infix_redactSecrets a.disjoint_secretMask hinner)

/-- **A redacted text is free of mail addresses,** and where the text was free of them before,
nothing but secrets is masked.

Addresses are masked first and secrets afterwards, and the second pass replaces parts of what
the first one has left.  That it puts no address together is the harder half. -/
theorem isMailFree_redactText (s : List Char) :
    IsMailFree (redactText s) ∧ (IsMailFree s → redactText s = redactSecrets s) := by
  constructor
  · exact (isMailFree_redactMail s).redactSecrets
  · intro h
    rw [redactText, redactMail_eq_self_iff.2 h]

/-- An address whose mailbox begins with a point. -/
def pointed : MailAddress where
  mailbox := ['.', 'x']
  domain := ['y']
  top := ['c', 'o', 'm']
  mailbox_ne_nil := by decide
  isMailboxChar_of_mem_mailbox := List.all_eq_true.1 (by decide)
  domain_ne_nil := by decide
  isDomainChar_of_mem_domain := List.all_eq_true.1 (by decide)
  two_le_length := by decide
  isAsciiLetter_of_mem_top := List.all_eq_true.1 (by decide)

/-- The domain of one address may run on into the mailbox of the next, and neither is left; a
domain without a point makes no address. -/
theorem isMailFree_redactText_pointed :
    pointed.text <:+: "a@b.co.x@y.com".toList ∧ IsMailFree (redactText "a@b.co.x@y.com".toList) ∧
      IsMailFree "x@y token=abcd".toList ∧ redactText "x@y token=abcd".toList =
        "x@y token=***".toList := by
  have hfree : IsMailFree "x@y token=abcd".toList := by decide +kernel
  have hmasked : redactSecrets "x@y token=abcd".toList = "x@y token=***".toList := by
    decide +kernel
  refine ⟨⟨"a@b.co".toList, [], by decide⟩, (isMailFree_redactText _).1, hfree, ?_⟩
  rw [(isMailFree_redactText _).2 hfree, hmasked]

end RecordFlow.Log
