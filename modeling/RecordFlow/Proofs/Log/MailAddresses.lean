import Mathlib.Data.List.TakeWhile
import RecordFlow.Log.Redaction

/-!
# The pass over mail addresses

What the first pass of redaction does to the parts of a text.  Three things can be said without
knowing the addresses of a text.

* **It works between the characters of no address** (`redactMail_append_cons`).  The parts on
  the two sides of such a character are redacted each by itself, and in the result, too, what
  stands on its two sides comes from the two parts (`exists_of_redactMail_eq`).
* **It only masks** (`mem_of_mem_redactMail`, `suffix_of_suffix_redactMail`).  What is in the
  result was in the text or is in the mask, and an end of the result without an asterisk is an
  end of the text.
* **It leaves an end alone that no address runs into** (`redactMail_append`).  An address runs
  into what follows only through its top-level domain: then the text before it ends in a
  mailbox, the sign, a domain, a point and letters (`OpensMail`).

## Main definitions

* `isMailChar` — the characters of mail addresses.
* `OpensMail` — a text ends in the beginning of an address.
-/

namespace RecordFlow.Log

open Text

variable {c e : Char} {s r t held x y : List Char}

/-! ### Characters of mail addresses -/

/-- Whether the character may stand in a mail address. -/
def isMailChar (c : Char) : Bool :=
  isMailboxChar c || c == '@'

theorem isMailboxChar_of_isDomainChar (h : isDomainChar c = true) : isMailboxChar c = true := by
  simp only [isDomainChar, isMailboxChar, Bool.or_eq_true] at h ⊢
  rcases h with (((h | h) | h) | h) <;> simp only [h, true_or, or_true]

theorem isDomainChar_of_isAsciiLetter (h : isAsciiLetter c = true) : isDomainChar c = true := by
  simp only [isDomainChar, h, Bool.true_or]

theorem not_isMailboxChar (h : isMailChar c = false) : isMailboxChar c = false :=
  (Bool.or_eq_false_iff.1 h).1

theorem ne_at_of_not_isMailChar (h : isMailChar c = false) : c ≠ '@' := by
  rintro rfl
  cases h

theorem not_isDomainChar (h : isMailChar c = false) : isDomainChar c = false := by
  rw [Bool.eq_false_iff]
  intro hdomain
  rw [isMailChar, isMailboxChar_of_isDomainChar hdomain] at h
  cases h

theorem not_isAsciiLetter (h : isMailChar c = false) : isAsciiLetter c = false := by
  rw [Bool.eq_false_iff]
  intro hletter
  rw [isMailChar, isMailboxChar_of_isDomainChar (isDomainChar_of_isAsciiLetter hletter)] at h
  cases h

/-! ### Domains -/

/-- A top-level domain is a row of at least two letters. -/
theorem exists_of_afterTopLevel? (h : afterTopLevel? s = some r) :
    ∃ top, s = top ++ r ∧ (∀ c ∈ top, isAsciiLetter c = true) ∧ 2 ≤ top.length := by
  rw [afterTopLevel?] at h
  split at h
  · next hlength =>
    cases h
    refine ⟨s.takeWhile isAsciiLetter, List.takeWhile_append_dropWhile.symm, ?_, hlength⟩
    exact fun c hc => List.mem_takeWhile_imp hc
  · cases h

/-- The rest of a domain is a row of its characters, a point and a top-level domain. -/
theorem exists_of_afterDomainRest? (h : afterDomainRest? s = some r) :
    ∃ domain top, s = domain ++ '.' :: (top ++ r) ∧ (∀ c ∈ domain, isDomainChar c = true) ∧
      (∀ c ∈ top, isAsciiLetter c = true) ∧ 2 ≤ top.length := by
  induction s with
  | nil => cases h
  | cons c s ih =>
    rw [afterDomainRest?] at h
    split at h
    · next hc =>
      rcases Option.or_eq_some_iff.1 h with hrest | ⟨-, htop⟩
      · obtain ⟨domain, top, rfl, hdomain, hletters⟩ := ih hrest
        exact ⟨c :: domain, top, rfl, List.forall_mem_cons.2 ⟨hc, hdomain⟩, hletters⟩
      · split at htop
        · next hpoint =>
          obtain ⟨top, rfl, hletters⟩ := exists_of_afterTopLevel? htop
          exact ⟨[], top, by rw [hpoint]; rfl, fun _ hd => absurd hd List.not_mem_nil, hletters⟩
        · cases htop
    · cases h

/-- **A domain is what it is read as:** at least one of its characters, a point and a top-level
domain. -/
theorem exists_parts_of_afterDomain? (h : afterDomain? s = some r) :
    ∃ domain top, s = domain ++ '.' :: (top ++ r) ∧ domain ≠ [] ∧
      (∀ c ∈ domain, isDomainChar c = true) ∧ (∀ c ∈ top, isAsciiLetter c = true) ∧
      2 ≤ top.length := by
  cases s with
  | nil => cases h
  | cons c s =>
    rw [afterDomain?] at h
    split at h
    · next hc =>
      obtain ⟨domain, top, rfl, hdomain, htop⟩ := exists_of_afterDomainRest? h
      exact ⟨c :: domain, top, rfl, List.cons_ne_nil c domain,
        List.forall_mem_cons.2 ⟨hc, hdomain⟩, htop⟩
    · cases h

/-- A domain is a row of its characters. -/
theorem exists_of_afterDomain? (h : afterDomain? s = some r) :
    ∃ z, s = z ++ r ∧ ∀ c ∈ z, isDomainChar c = true := by
  obtain ⟨domain, top, rfl, -, hdomain, htop, -⟩ := exists_parts_of_afterDomain? h
  refine ⟨domain ++ '.' :: top, by rw [List.append_assoc, List.cons_append], ?_⟩
  refine List.forall_mem_append.2 ⟨hdomain, List.forall_mem_cons.2 ⟨rfl, ?_⟩⟩
  exact fun c hc => isDomainChar_of_isAsciiLetter (htop c hc)

/-- A row of characters stops where it stops, or at the end of the text. -/
theorem takeWhile_append_of_stop {p : Char → Bool}
    (h : (∀ d ∈ s, p d = true) → ∀ d ∈ t.head?, p d = false) :
    (s ++ t).takeWhile p = s.takeWhile p ∧ (s ++ t).dropWhile p = s.dropWhile p ++ t := by
  induction s with
  | nil =>
    cases t with
    | nil => exact ⟨rfl, rfl⟩
    | cons d t =>
      have hd : p d = false := h (fun _ hd => absurd hd List.not_mem_nil) d rfl
      simp [hd]
  | cons a s ih =>
    cases ha : p a with
    | true =>
      obtain ⟨htake, hdrop⟩ := ih fun hs => h (List.forall_mem_cons.2 ⟨ha, hs⟩)
      simp [ha, htake, hdrop]
    | false => simp [ha]

/-- What follows leaves a top-level domain alone that does not run into it. -/
theorem afterTopLevel?_append
    (h : (∀ d ∈ s, isAsciiLetter d = true) → ∀ d ∈ t.head?, isAsciiLetter d = false) :
    afterTopLevel? (s ++ t) = (afterTopLevel? s).map (· ++ t) := by
  obtain ⟨htake, hdrop⟩ := takeWhile_append_of_stop h
  rw [afterTopLevel?, afterTopLevel?, htake, hdrop]
  split <;> rfl

/-- What follows leaves the rest of a domain alone if it has no domain of its own and no
top-level domain runs into it. -/
theorem afterDomainRest?_append (ht : afterDomainRest? t = none)
    (hs : ∀ domain top, s = domain ++ '.' :: top → (∀ d ∈ domain, isDomainChar d = true) →
      (∀ d ∈ top, isAsciiLetter d = true) → ∀ d ∈ t.head?, isAsciiLetter d = false) :
    afterDomainRest? (s ++ t) = (afterDomainRest? s).map (· ++ t) := by
  induction s with
  | nil => rw [List.nil_append, ht, afterDomainRest?, Option.map_none]
  | cons c s ih =>
    rw [List.cons_append, afterDomainRest?, afterDomainRest?]
    cases hc : isDomainChar c with
    | false => rfl
    | true =>
      have hrest : afterDomainRest? (s ++ t) = (afterDomainRest? s).map (· ++ t) := by
        refine ih ?_
        rintro domain top rfl hdomain htop
        exact hs (c :: domain) top rfl (List.forall_mem_cons.2 ⟨hc, hdomain⟩) htop
      have htop : (if c = '.' then afterTopLevel? (s ++ t) else none) =
          (if c = '.' then afterTopLevel? s else none).map (· ++ t) := by
        split
        · next hpoint =>
          refine afterTopLevel?_append ?_
          intro hletters
          exact hs [] s (by rw [hpoint]; rfl) (fun _ hd => absurd hd List.not_mem_nil) hletters
        · rfl
      rw [if_pos rfl, if_pos rfl, hrest, htop]
      cases afterDomainRest? s <;> rfl

/-- What follows leaves a domain alone in the same case. -/
theorem afterDomain?_append (ht : afterDomainRest? t = none)
    (hs : ∀ domain top, s = domain ++ '.' :: top → domain ≠ [] →
      (∀ d ∈ domain, isDomainChar d = true) → (∀ d ∈ top, isAsciiLetter d = true) →
      ∀ d ∈ t.head?, isAsciiLetter d = false) :
    afterDomain? (s ++ t) = (afterDomain? s).map (· ++ t) := by
  cases s with
  | nil =>
    cases t with
    | nil => rfl
    | cons d t =>
      rw [afterDomainRest?] at ht
      rw [List.nil_append, afterDomain?, afterDomain?]
      split
      · next hd =>
        rw [if_pos hd, Option.or_eq_none_iff] at ht
        rw [ht.1]
        rfl
      · rfl
  | cons c s =>
    rw [List.cons_append, afterDomain?, afterDomain?]
    cases hc : isDomainChar c with
    | false => rfl
    | true =>
      rw [if_pos rfl, if_pos rfl]
      refine afterDomainRest?_append ht ?_
      rintro domain top rfl hdomain htop
      exact hs (c :: domain) top rfl (List.cons_ne_nil c domain)
        (List.forall_mem_cons.2 ⟨hc, hdomain⟩) htop

/-- Without a point there is no domain. -/
theorem afterDomainRest?_eq_none (h : '.' ∉ s) : afterDomainRest? s = none := by
  induction s with
  | nil => rfl
  | cons c s ih =>
    have hc : c ≠ '.' := (List.ne_of_not_mem_cons h).symm
    rw [afterDomainRest?, ih (List.not_mem_of_not_mem_cons h), if_neg hc]
    split <;> rfl

/-! ### One character at a time -/

/-- A character of a mailbox is held back. -/
theorem redactMailFrom_mailbox (hc : isMailboxChar c = true) (held s : List Char) :
    redactMailFrom held (c :: s) = redactMailFrom (c :: held) s := by
  rw [redactMailFrom, if_pos hc]

/-- A mailbox, the sign and a domain are masked. -/
theorem redactMailFrom_address (hheld : held ≠ []) (h : afterDomain? s = some r) :
    redactMailFrom held ('@' :: s) = mailMask ++ redactMailFrom [] r := by
  rw [redactMailFrom, if_neg (by decide), if_pos ⟨rfl, hheld⟩]
  split
  · next after hafter =>
    rw [h] at hafter
    cases hafter
    rfl
  · next hnone =>
    rw [h] at hnone
    cases hnone

/-- Any other character sets free what was held back. -/
theorem redactMailFrom_other (hc : isMailboxChar c = false)
    (h : c = '@' → held ≠ [] → afterDomain? s = none) :
    redactMailFrom held (c :: s) = held.reverse ++ c :: redactMailFrom [] s := by
  rw [redactMailFrom, if_neg (by rw [hc]; exact Bool.false_ne_true)]
  split
  · next hat =>
    split
    · next after hafter =>
      rw [h hat.1 hat.2] at hafter
      cases hafter
    · rfl
  · rfl

/-- **Induction along the pass:** at the end, at a character that is held back, at an address,
and at any other character. -/
theorem redactMailFrom_induction {motive : List Char → List Char → Prop}
    (nil : ∀ held, motive held [])
    (mailbox : ∀ held c s, isMailboxChar c = true → motive (c :: held) s → motive held (c :: s))
    (address : ∀ held s r, held ≠ [] → afterDomain? s = some r → motive [] r →
      motive held ('@' :: s))
    (other : ∀ held c s, isMailboxChar c = false →
      (c = '@' → held ≠ [] → afterDomain? s = none) → motive [] s → motive held (c :: s))
    (held s : List Char) : motive held s := by
  fun_induction redactMailFrom held s with
  | case1 held => exact nil held
  | case2 held c rest hc ih => exact mailbox held c rest hc ih
  | case3 held c rest hc hat after hafter ih =>
    obtain ⟨rfl, hheld⟩ := hat
    exact address held rest after hheld hafter ih
  | case4 held c rest hc hat hnone ih =>
    exact other held c rest (Bool.eq_false_iff.2 hc) (fun _ _ => hnone) ih
  | case5 held c rest hc hat ih =>
    exact other held c rest (Bool.eq_false_iff.2 hc) (fun h hheld => absurd ⟨h, hheld⟩ hat) ih

/-! ### What is in the result -/

/-- **The pass only masks:** what is in the result was held back, or is in the text or in the
mask. -/
theorem mem_of_mem_redactMailFrom (h : c ∈ redactMailFrom held s) :
    c ∈ held ∨ c ∈ s ∨ c ∈ mailMask := by
  induction held, s using redactMailFrom_induction with
  | nil held =>
    rw [redactMailFrom] at h
    exact Or.inl (List.mem_reverse.1 h)
  | mailbox held d s hd ih =>
    rw [redactMailFrom_mailbox hd] at h
    rcases ih h with hheld | hrest | hmask
    · rcases List.mem_cons.1 hheld with rfl | hheld
      · exact Or.inr (Or.inl List.mem_cons_self)
      · exact Or.inl hheld
    · exact Or.inr (Or.inl (List.mem_cons_of_mem d hrest))
    · exact Or.inr (Or.inr hmask)
  | address held s r hheld hr ih =>
    obtain ⟨z, rfl, -⟩ := exists_of_afterDomain? hr
    rw [redactMailFrom_address hheld hr, List.mem_append] at h
    rcases h with hmask | h
    · exact Or.inr (Or.inr hmask)
    · rcases ih h with hnil | hrest | hmask
      · exact absurd hnil List.not_mem_nil
      · exact Or.inr (Or.inl (List.mem_cons_of_mem '@' (List.mem_append_right z hrest)))
      · exact Or.inr (Or.inr hmask)
  | other held d s hd hat ih =>
    rw [redactMailFrom_other hd hat, List.mem_append, List.mem_reverse, List.mem_cons] at h
    rcases h with hheld | rfl | h
    · exact Or.inl hheld
    · exact Or.inr (Or.inl List.mem_cons_self)
    · rcases ih h with hnil | hrest | hmask
      · exact absurd hnil List.not_mem_nil
      · exact Or.inr (Or.inl (List.mem_cons_of_mem d hrest))
      · exact Or.inr (Or.inr hmask)

theorem mem_of_mem_redactMail (h : c ∈ redactMail s) : c ∈ s ∨ c ∈ mailMask :=
  (mem_of_mem_redactMailFrom h).resolve_left List.not_mem_nil

/-- What is no longer in the result stood in a mail address. -/
theorem isMailChar_or_mem_redactMailFrom (hheld : ∀ d ∈ held, isMailboxChar d = true)
    (h : c ∈ held ∨ c ∈ s) : isMailChar c = true ∨ c ∈ redactMailFrom held s := by
  have hmailbox {d : Char} (hd : isMailboxChar d = true) : isMailChar d = true := by
    rw [isMailChar, hd, Bool.true_or]
  induction held, s using redactMailFrom_induction with
  | nil held =>
    left
    exact hmailbox (hheld c (h.resolve_right List.not_mem_nil))
  | mailbox held d s hd ih =>
    rw [redactMailFrom_mailbox hd]
    refine ih (List.forall_mem_cons.2 ⟨hd, hheld⟩) ?_
    rcases h with h | h
    · exact Or.inl (List.mem_cons_of_mem d h)
    · rcases List.mem_cons.1 h with rfl | h
      · exact Or.inl List.mem_cons_self
      · exact Or.inr h
  | address held s r hne hr ih =>
    obtain ⟨z, rfl, hz⟩ := exists_of_afterDomain? hr
    rw [redactMailFrom_address hne hr]
    rcases h with h | h
    · exact Or.inl (hmailbox (hheld c h))
    · rcases List.mem_cons.1 h with rfl | h
      · exact Or.inl rfl
      · rcases List.mem_append.1 h with h | h
        · exact Or.inl (hmailbox (isMailboxChar_of_isDomainChar (hz c h)))
        · refine (ih (fun _ hd => absurd hd List.not_mem_nil) (Or.inr h)).imp_right ?_
          exact List.mem_append_right mailMask
  | other held d s hd hat ih =>
    rw [redactMailFrom_other hd hat]
    rcases h with h | h
    · exact Or.inl (hmailbox (hheld c h))
    · rcases List.mem_cons.1 h with rfl | h
      · exact Or.inr (List.mem_append_right _ List.mem_cons_self)
      · refine (ih (fun _ hd => absurd hd List.not_mem_nil) (Or.inr h)).imp_right ?_
        intro hmem
        exact List.mem_append_right _ (List.mem_cons_of_mem d hmem)

theorem isMailChar_or_mem_redactMail (h : c ∈ s) : isMailChar c = true ∨ c ∈ redactMail s :=
  isMailChar_or_mem_redactMailFrom (fun _ hd => absurd hd List.not_mem_nil) (Or.inr h)

/-- **The mask is not short:** a text of three characters is not redacted to fewer. -/
theorem min_le_length_redactMailFrom (held s : List Char) :
    min 3 (held.length + s.length) ≤ (redactMailFrom held s).length := by
  induction held, s using redactMailFrom_induction with
  | nil held =>
    rw [redactMailFrom, List.length_reverse, List.length_nil]
    omega
  | mailbox held c s hc ih =>
    rw [redactMailFrom_mailbox hc]
    rw [List.length_cons] at ih ⊢
    omega
  | address held s r hheld hr ih =>
    rw [redactMailFrom_address hheld hr, List.length_append]
    have hmask : mailMask.length = 7 := rfl
    omega
  | other held c s hc hat ih =>
    rw [redactMailFrom_other hc hat, List.length_append, List.length_reverse, List.length_cons]
    rw [List.length_nil] at ih
    rw [List.length_cons]
    omega

theorem redactMail_eq_nil (h : redactMail s = []) : s = [] := by
  have hlength := min_le_length_redactMailFrom [] s
  rw [← redactMail, h] at hlength
  simp only [List.length_nil] at hlength
  exact List.length_eq_zero_iff.1 (by omega)

/-- A text without an asterisk in its result has not been changed. -/
theorem redactMailFrom_eq_self (h : '*' ∉ redactMailFrom held s) :
    redactMailFrom held s = held.reverse ++ s := by
  induction held, s using redactMailFrom_induction with
  | nil held => rw [redactMailFrom, List.append_nil]
  | mailbox held c s hc ih =>
    rw [redactMailFrom_mailbox hc] at h ⊢
    rw [ih h, List.reverse_cons, List.append_assoc]
    rfl
  | address held s r hheld hr ih =>
    rw [redactMailFrom_address hheld hr] at h
    exact absurd (List.mem_append_left _ (by decide)) h
  | other held c s hc hat ih =>
    rw [redactMailFrom_other hc hat] at h ⊢
    have hrest : '*' ∉ redactMailFrom [] s := by
      intro hmem
      exact h (List.mem_append_right _ (List.mem_cons_of_mem c hmem))
    rw [ih hrest]
    rfl

/-- An end of a text in two parts is an end of the second, or holds it. -/
theorem suffix_append_cases (h : t <:+ x ++ y) : t <:+ y ∨ ∃ z, z <:+ x ∧ t = z ++ y := by
  obtain ⟨front, h⟩ := h
  rcases List.append_eq_append_iff.1 h with ⟨z, hx, ht⟩ | ⟨z, hfront, hy⟩
  · exact Or.inr ⟨z, ⟨front, hx.symm⟩, ht⟩
  · exact Or.inl ⟨z, hy.symm⟩

/-- **An end of the result without an asterisk is an end of the text.** -/
theorem suffix_of_suffix_redactMailFrom (ht : '*' ∉ t) (h : t <:+ redactMailFrom held s) :
    t <:+ held.reverse ++ s := by
  induction held, s using redactMailFrom_induction with
  | nil held =>
    rw [redactMailFrom] at h
    rw [List.append_nil]
    exact h
  | mailbox held c s hc ih =>
    rw [redactMailFrom_mailbox hc] at h
    have hend := ih h
    rw [List.reverse_cons, List.append_assoc] at hend
    exact hend
  | address held s r hheld hr ih =>
    rw [redactMailFrom_address hheld hr] at h
    have hend : t <:+ redactMailFrom [] r := by
      rcases suffix_append_cases h with hend | ⟨z, hz, rfl⟩
      · exact hend
      · -- an end of the mask that is not empty has its last asterisk
        rcases eq_or_ne z [] with rfl | hne
        · exact List.suffix_refl _
        · have hlast : z.getLast hne = '*' := hz.getLast hne
          have hmem := List.getLast_mem hne
          rw [hlast] at hmem
          exact absurd (List.mem_append_left _ hmem) ht
    obtain ⟨z, rfl, -⟩ := exists_of_afterDomain? hr
    refine (ih hend).trans ⟨held.reverse ++ '@' :: z, ?_⟩
    simp
  | other held c s hc hat ih =>
    rw [redactMailFrom_other hc hat, List.append_cons] at h
    rw [List.append_cons]
    rcases suffix_append_cases h with hend | ⟨z, hz, rfl⟩
    · exact (ih hend).trans (List.suffix_append _ _)
    · -- the whole rest of the result has no asterisk then, and is the rest of the text
      have hrest : '*' ∉ redactMailFrom [] s := fun hmem => ht (List.mem_append_right z hmem)
      rw [redactMailFrom_eq_self hrest]
      exact (List.suffix_append_inj_of_length_eq rfl).2 ⟨hz, rfl⟩

theorem suffix_of_suffix_redactMail (ht : '*' ∉ t) (h : t <:+ redactMail s) : t <:+ s :=
  suffix_of_suffix_redactMailFrom ht h

/-! ### Parts of a text -/

/-- **A text ends in the beginning of a mail address:** a mailbox, the sign, a domain, a point
and perhaps letters.  Letters that follow belong to the address. -/
def OpensMail (s : List Char) : Prop :=
  ∃ front mailbox domain top, s = front ++ mailbox :: '@' :: (domain ++ '.' :: top) ∧
    isMailboxChar mailbox = true ∧ domain ≠ [] ∧ (∀ c ∈ domain, isDomainChar c = true) ∧
    ∀ c ∈ top, isAsciiLetter c = true

/-- An end that opens an address opens it in the whole text. -/
theorem OpensMail.append (h : OpensMail s) (x : List Char) : OpensMail (x ++ s) := by
  obtain ⟨front, mailbox, domain, top, rfl, hrest⟩ := h
  exact ⟨x ++ front, mailbox, domain, top, (List.append_assoc ..).symm, hrest⟩

/-- Behind the sign, with a mailbox before it, the text opens an address where its domain goes
on to the end. -/
theorem held_opens {P : Prop} (hne : held ≠ []) (hheld : ∀ d ∈ held, isMailboxChar d = true)
    (hs : OpensMail (held.reverse ++ '@' :: s) → P) (domain top : List Char)
    (hsplit : s = domain ++ '.' :: top) (hdomain : domain ≠ [])
    (hchars : ∀ d ∈ domain, isDomainChar d = true) (htop : ∀ d ∈ top, isAsciiLetter d = true) :
    P := by
  obtain ⟨mailbox, rest, rfl⟩ := List.exists_cons_of_ne_nil hne
  refine hs ⟨rest.reverse, mailbox, domain, top, ?_, hheld mailbox List.mem_cons_self, hdomain,
    hchars, htop⟩
  rw [hsplit, List.reverse_cons, List.append_assoc]
  rfl

/-- **A part that no address runs into is redacted by itself,** if what was held back before it
is set free there. -/
theorem redactMailFrom_append {result : List Char} (ht : afterDomainRest? t = none)
    (hresult : ∀ held, redactMailFrom held t = held.reverse ++ result)
    (hheld : ∀ d ∈ held, isMailboxChar d = true)
    (hs : OpensMail (held.reverse ++ s) → ∀ d ∈ t.head?, isAsciiLetter d = false) :
    redactMailFrom held (s ++ t) = redactMailFrom held s ++ result := by
  induction held, s using redactMailFrom_induction with
  | nil held => rw [List.nil_append, hresult, redactMailFrom]
  | mailbox held c s hc ih =>
    rw [List.cons_append, redactMailFrom_mailbox hc, redactMailFrom_mailbox hc]
    refine ih (List.forall_mem_cons.2 ⟨hc, hheld⟩) ?_
    rw [List.reverse_cons, List.append_assoc]
    exact hs
  | address held s r hne hr ih =>
    have hdomain := afterDomain?_append ht (held_opens hne hheld hs)
    rw [hr, Option.map_some] at hdomain
    rw [List.cons_append, redactMailFrom_address hne hdomain, redactMailFrom_address hne hr,
      List.append_assoc]
    congr 1
    refine ih (fun _ hd => absurd hd List.not_mem_nil) ?_
    obtain ⟨z, rfl, -⟩ := exists_of_afterDomain? hr
    intro hopens
    refine hs ?_
    have hwhole := hopens.append (held.reverse ++ '@' :: z)
    rw [List.append_assoc] at hwhole
    exact hwhole
  | other held c s hc hat ih =>
    have hother : c = '@' → held ≠ [] → afterDomain? (s ++ t) = none := by
      intro hc' hne
      subst hc'
      rw [afterDomain?_append ht (held_opens hne hheld hs), hat rfl hne]
      rfl
    rw [List.cons_append, redactMailFrom_other hc hother, redactMailFrom_other hc hat,
      List.append_assoc, List.cons_append]
    congr 2
    refine ih (fun _ hd => absurd hd List.not_mem_nil) ?_
    intro hopens
    refine hs ?_
    have hwhole := hopens.append (held.reverse ++ [c])
    rw [List.append_assoc] at hwhole
    exact hwhole

/-- A text without the sign is left as it is. -/
theorem redactMailFrom_of_notMem (h : '@' ∉ s) (held : List Char) :
    redactMailFrom held s = held.reverse ++ s := by
  induction s generalizing held with
  | nil => rw [redactMailFrom, List.append_nil]
  | cons c s ih =>
    have hc : c ≠ '@' := (List.ne_of_not_mem_cons h).symm
    have hs := ih (List.not_mem_of_not_mem_cons h)
    cases hmailbox : isMailboxChar c with
    | true =>
      rw [redactMailFrom_mailbox hmailbox, hs, List.reverse_cons, List.append_assoc]
      rfl
    | false =>
      rw [redactMailFrom_other hmailbox fun hat => absurd hat hc, hs]
      rfl

/-- **An end without the sign and without a point is left alone,** if no address runs into
it. -/
theorem redactMail_append (hat : '@' ∉ t) (hpoint : '.' ∉ t) (hs : ¬ OpensMail s) :
    redactMail (s ++ t) = redactMail s ++ t :=
  redactMailFrom_append (afterDomainRest?_eq_none hpoint) (redactMailFrom_of_notMem hat)
    (fun _ hd => absurd hd List.not_mem_nil) (fun hopens => absurd hopens hs)

/-- **The parts on the two sides of a character of no address are redacted by themselves.** -/
theorem redactMail_append_cons (hc : isMailChar c = false) (x y : List Char) :
    redactMail (x ++ c :: y) = redactMail x ++ c :: redactMail y := by
  refine redactMailFrom_append ?_ ?_ (fun _ hd => absurd hd List.not_mem_nil) ?_
  · rw [afterDomainRest?, if_neg (by rw [not_isDomainChar hc]; exact Bool.false_ne_true)]
  · intro held
    exact redactMailFrom_other (not_isMailboxChar hc)
      fun hat => absurd hat (ne_at_of_not_isMailChar hc)
  · rintro - d hd
    cases hd
    exact not_isAsciiLetter hc

theorem redactMail_nil : redactMail [] = [] := by
  rw [redactMail, redactMailFrom, List.reverse_nil]

theorem redactMail_cons (hc : isMailChar c = false) (y : List Char) :
    redactMail (c :: y) = c :: redactMail y := by
  have hparts := redactMail_append_cons hc [] y
  rw [redactMail_nil] at hparts
  exact hparts

/-- The same where the second part begins with such a character, or is empty. -/
theorem redactMail_append_of_head? (hy : ∀ d ∈ y.head?, isMailChar d = false) (x : List Char) :
    redactMail (x ++ y) = redactMail x ++ redactMail y := by
  cases y with
  | nil => rw [List.append_nil, redactMail_nil, List.append_nil]
  | cons d y =>
    have hd : isMailChar d = false := hy d rfl
    rw [redactMail_append_cons hd, redactMail_cons hd]

theorem head?_redactMail (hy : ∀ d ∈ y.head?, isMailChar d = false) :
    (redactMail y).head? = y.head? := by
  cases y with
  | nil => rw [redactMail_nil]
  | cons d y =>
    rw [redactMail_cons (hy d rfl)]
    rfl

/-- A row of characters of no address is left alone. -/
theorem redactMail_append_of_forall (hx : ∀ c ∈ x, isMailChar c = false) (y : List Char) :
    redactMail (x ++ y) = x ++ redactMail y := by
  induction x with
  | nil => rfl
  | cons c x ih =>
    obtain ⟨hc, hx⟩ := List.forall_mem_cons.1 hx
    rw [List.cons_append, redactMail_cons hc, ih hx]
    rfl

/-- The mask is made of the sign and of asterisks. -/
theorem notMem_mailMask (he : isMailChar e = false) (hmask : e ≠ '*') : e ∉ mailMask := by
  have hat := ne_at_of_not_isMailChar he
  simp [mailMask, hmask, hat]

/-- **What stands on the two sides of a character of no address comes from two parts of the
text.** -/
theorem exists_of_redactMail_eq (he : isMailChar e = false) (hmask : e ≠ '*')
    (h : redactMail s = x ++ e :: y) :
    ∃ x₀ y₀, s = x₀ ++ e :: y₀ ∧ redactMail x₀ = x ∧ redactMail y₀ = y := by
  induction hlength : s.length using Nat.strong_induction_on generalizing s x with
  | _ length ih =>
    have hresult : e ∈ redactMail s := by
      rw [h]
      exact List.mem_append_right x List.mem_cons_self
    have hmem : e ∈ s :=
      (mem_of_mem_redactMail hresult).resolve_right (notMem_mailMask he hmask)
    -- the text is cut at the first place where it has this character
    obtain ⟨front, back, rfl, hfront⟩ := List.eq_append_cons_of_mem hmem
    have hnone : e ∉ redactMail front := fun hin =>
      (mem_of_mem_redactMail hin).elim hfront (notMem_mailMask he hmask)
    rw [redactMail_append_cons he] at h
    rcases List.append_eq_append_iff.1 h with ⟨z, hx, hz⟩ | ⟨z, hx, hz⟩
    · cases z with
      | nil =>
        cases hz
        exact ⟨front, back, rfl, by rw [hx, List.append_nil], rfl⟩
      | cons d z =>
        rw [List.cons_append, List.cons.injEq] at hz
        obtain ⟨rfl, hz⟩ := hz
        have hshorter : back.length < length := by
          rw [← hlength, List.length_append, List.length_cons]
          omega
        obtain ⟨x₁, y₁, rfl, hx₁, hy₁⟩ := ih back.length hshorter hz rfl
        refine ⟨front ++ e :: x₁, y₁, by simp, ?_, hy₁⟩
        rw [redactMail_append_cons he, hx₁, hx]
    · cases z with
      | nil =>
        cases hz
        exact ⟨front, back, rfl, by rw [hx, List.append_nil], rfl⟩
      | cons d z =>
        rw [List.cons_append, List.cons.injEq] at hz
        rw [← hz.1] at hx
        rw [hx] at hnone
        exact absurd (List.mem_append_right x List.mem_cons_self) hnone

/-- A row of characters of no address at the beginning of the result is at the beginning of the
text. -/
theorem exists_of_redactMail_eq_append (hx : ∀ c ∈ x, isMailChar c = false ∧ c ≠ '*')
    (h : redactMail s = x ++ y) : ∃ y₀, s = x ++ y₀ ∧ redactMail y₀ = y := by
  induction x generalizing s with
  | nil => exact ⟨s, rfl, h⟩
  | cons c x ih =>
    obtain ⟨⟨hc, hmask⟩, hx⟩ := List.forall_mem_cons.1 hx
    obtain ⟨front, rest, rfl, hfront, hrest⟩ := exists_of_redactMail_eq hc hmask
      (h.trans (List.nil_append _).symm)
    obtain ⟨y₀, rfl, hy₀⟩ := ih hx hrest
    rw [redactMail_eq_nil hfront]
    exact ⟨y₀, rfl, hy₀⟩

end RecordFlow.Log
