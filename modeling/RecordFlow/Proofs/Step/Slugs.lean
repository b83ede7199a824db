import RecordFlow.Proofs.Text.Splitting
import RecordFlow.Step.Wording

/-!
# Slugs and the words in them

The slug of a text is made of the alphanumeric runs of its lower case, in their order, with the
separator between neighbours (`Step.slugify_runs`).  What is a maximal run is said by a relation
(`MaximalRuns`), which a text and its runs are in just if the runs are found in the text
(`maximalRuns_iff`).

Everything else follows from one fact: runs that are joined with a separator without
alphanumeric characters are the maximal runs of what they are joined to
(`maximalRuns_joinWith`).  So the words can be read off the slug again, and two texts have the
same slug just if they have the same runs, whatever stands between these.

## Main definitions

* `Wording.IsRun` — some characters, all of a class.
* `Wording.MaximalRuns` — the maximal runs of a class in a text.
-/

namespace RecordFlow

theorem Value.text_inj {s t : List Char} : Value.text s = Value.text t ↔ s = t := by
  rw [text, text, Value.str.injEq, String.ofList_inj]

namespace Wording

open Text

variable {p : Char → Bool} {c : Char} {s gap run rest separator : List Char}
variable {runs : List (List Char)}

/-- **A run of a class:** at least one character, and all of them of the class.  It need not be
a longest one; that is said by what stands around it. -/
structure IsRun (p : Char → Bool) (run : List Char) : Prop where
  ne_nil : run ≠ []
  forall_mem : ∀ c ∈ run, p c = true

/-- **The maximal runs of a class in a text,** in order.  Between them, before the first and
after the last are characters of other classes only. -/
inductive MaximalRuns (p : Char → Bool) : List Char → List (List Char) → Prop
  /-- A text without characters of the class has no runs. -/
  | none {s : List Char} : (∀ c ∈ s, p c = false) → MaximalRuns p s []
  /-- The first run begins with the first character of the class, and ends where another
  character or nothing follows. -/
  | run {gap run rest : List Char} {runs : List (List Char)} :
      (∀ c ∈ gap, p c = false) → IsRun p run → (∀ c ∈ rest.head?, p c = false) →
      MaximalRuns p rest runs → MaximalRuns p (gap ++ (run ++ rest)) (run :: runs)

/-! ### Finding the runs -/

theorem runsOf_eq_nil (h : ∀ c ∈ s, p c = false) : runsOf p s = [] := by
  have hdrop : s.dropWhile (!p ·) = [] := by
    rw [List.dropWhile_eq_nil_iff]
    intro c hc
    rw [h c hc]
    rfl
  rw [runsOf.eq_def]
  split
  · rfl
  · next hcons =>
    rw [hdrop] at hcons
    cases hcons

/-- The first run is found where it stands. -/
theorem runsOf_append (hgap : ∀ c ∈ gap, p c = false) (hrun : IsRun p run)
    (hrest : ∀ c ∈ rest.head?, p c = false) :
    runsOf p (gap ++ (run ++ rest)) = run :: runsOf p rest := by
  obtain ⟨c, more, rfl⟩ := List.exists_cons_of_ne_nil hrun.ne_nil
  obtain ⟨hc, hmore⟩ := List.forall_mem_cons.1 hrun.forall_mem
  have hdrop : (gap ++ (c :: more ++ rest)).dropWhile (!p ·) = c :: (more ++ rest) := by
    refine (span_append ?_ ?_).2
    · intro d hd
      rw [hgap d hd]
      rfl
    · rintro d ⟨⟩
      rw [hc]
      rfl
  obtain ⟨htake, -⟩ := span_append hrun.forall_mem hrest
  obtain ⟨-, hafter⟩ := span_append hmore hrest
  rw [runsOf.eq_def]
  split
  · next hnil =>
    rw [hdrop] at hnil
    cases hnil
  · next d tail hcons =>
    rw [hdrop] at hcons
    cases hcons
    rw [← List.cons_append, htake, hafter]

/-- A text has no characters of the class, or a first run of them. -/
theorem exists_eq_append_run (p : Char → Bool) (s : List Char) :
    (∀ c ∈ s, p c = false) ∨ ∃ gap run rest, s = gap ++ (run ++ rest) ∧ (∀ c ∈ gap, p c = false) ∧
      IsRun p run ∧ ∀ c ∈ rest.head?, p c = false := by
  have hspan : s.takeWhile (!p ·) ++ s.dropWhile (!p ·) = s := List.takeWhile_append_dropWhile
  have hgap : ∀ c ∈ s.takeWhile (!p ·), p c = false := by
    intro c hc
    simpa using List.mem_takeWhile_imp hc
  cases htail : s.dropWhile (!p ·) with
  | nil =>
    left
    rw [htail, List.append_nil] at hspan
    rwa [hspan] at hgap
  | cons c tail =>
    right
    have hc : p c = true := by
      have hhead := List.head?_dropWhile_not (!p ·) s
      rw [htail] at hhead
      simpa using hhead
    rw [htail] at hspan
    refine ⟨s.takeWhile (!p ·), (c :: tail).takeWhile p, (c :: tail).dropWhile p, ?_, hgap,
      ⟨?_, fun d hd => List.mem_takeWhile_imp hd⟩, ?_⟩
    · rw [List.takeWhile_append_dropWhile, hspan]
    · rw [List.takeWhile_cons_of_pos hc]
      exact List.cons_ne_nil _ _
    · intro d hd
      have hhead := List.head?_dropWhile_not p (c :: tail)
      rw [Option.mem_def.1 hd] at hhead
      simpa using hhead

/-- **What is found in a text are its maximal runs.** -/
theorem maximalRuns_runsOf (p : Char → Bool) (s : List Char) : MaximalRuns p s (runsOf p s) := by
  rcases exists_eq_append_run p s with hnone | ⟨gap, run, rest, hs, hgap, hrun, hrest⟩
  · rw [runsOf_eq_nil hnone]
    exact .none hnone
  · have hshorter : rest.length < s.length := by
      have hpos : 0 < run.length := List.length_pos_iff.2 hrun.ne_nil
      rw [hs, List.length_append, List.length_append]
      omega
    have hlater := maximalRuns_runsOf p rest
    rw [hs, runsOf_append hgap hrun hrest]
    exact .run hgap hrun hrest hlater
termination_by s.length

/-- **A text has its maximal runs in one way only,** and they are found. -/
theorem maximalRuns_iff : MaximalRuns p s runs ↔ runs = runsOf p s := by
  constructor
  · intro h
    induction h with
    | none hs => rw [runsOf_eq_nil hs]
    | run hgap hrun hrest _ ih => rw [runsOf_append hgap hrun hrest, ← ih]
  · rintro rfl
    exact maximalRuns_runsOf p s

namespace MaximalRuns

theorem isRun_of_mem (h : MaximalRuns p s runs) (hrun : run ∈ runs) : IsRun p run := by
  induction h with
  | none => cases hrun
  | run _ hfirst _ _ ih =>
    rcases List.mem_cons.1 hrun with rfl | hrun
    · exact hfirst
    · exact ih hrun

/-- Characters of other classes in front make no difference. -/
theorem append_left (hgap : ∀ c ∈ gap, p c = false) (h : MaximalRuns p s runs) :
    MaximalRuns p (gap ++ s) runs := by
  cases h with
  | none hs =>
    refine .none fun c hc => ?_
    exact (List.mem_append.1 hc).elim (hgap c) (hs c)
  | run hmore hrun hrest hruns =>
    rw [← List.append_assoc]
    refine .run (fun c hc => ?_) hrun hrest hruns
    exact (List.mem_append.1 hc).elim (hgap c) (hmore c)

end MaximalRuns

/-! ### Joining runs -/

/-- **Runs that are joined are found again,** if the separator has none of their characters. -/
theorem maximalRuns_joinWith (hne : separator ≠ []) (hseparator : ∀ c ∈ separator, p c = false)
    (hruns : ∀ run ∈ runs, IsRun p run) : MaximalRuns p (joinWith separator runs) runs := by
  induction runs with
  | nil => exact .none fun c hc => absurd hc List.not_mem_nil
  | cons run runs ih =>
    obtain ⟨hrun, hruns⟩ := List.forall_mem_cons.1 hruns
    rcases eq_or_ne runs [] with rfl | hmore
    · have hlast : MaximalRuns p ([] ++ (run ++ [])) [run] :=
        .run (by simp) hrun (by simp) (.none (by simp))
      rwa [List.nil_append, List.append_nil] at hlast
    · rw [joinWith_cons hmore, ← List.nil_append (run ++ _)]
      refine .run (by simp) hrun ?_ ((ih hruns).append_left hseparator)
      -- the separator ends the run, and it is not empty
      obtain ⟨d, tail, rfl⟩ := List.exists_cons_of_ne_nil hne
      rintro c ⟨⟩
      exact hseparator _ List.mem_cons_self

theorem joinWith_ne_nil (hne : runs ≠ []) (hruns : ∀ run ∈ runs, IsRun p run) :
    joinWith separator runs ≠ [] := by
  obtain ⟨run, runs, rfl⟩ := List.exists_cons_of_ne_nil hne
  obtain ⟨hrun, -⟩ := List.forall_mem_cons.1 hruns
  rcases eq_or_ne runs [] with rfl | hmore
  · exact hrun.ne_nil
  · rw [joinWith_cons hmore]
    exact List.append_ne_nil_of_left_ne_nil hrun.ne_nil _

/-- Joined runs begin and end in characters of the class. -/
theorem joinWith_ends (separator : List Char) (hruns : ∀ run ∈ runs, IsRun p run) :
    (∀ c ∈ (joinWith separator runs).head?, p c = true) ∧
      ∀ c ∈ (joinWith separator runs).getLast?, p c = true := by
  induction runs with
  | nil => simp [joinWith]
  | cons run runs ih =>
    obtain ⟨hrun, hruns⟩ := List.forall_mem_cons.1 hruns
    rcases eq_or_ne runs [] with rfl | hmore
    · exact ⟨fun c hc => hrun.forall_mem c (List.mem_of_head? hc),
        fun c hc => hrun.forall_mem c (List.mem_of_getLast? hc)⟩
    · obtain ⟨hfirst, hlast⟩ := ih hruns
      rw [joinWith_cons hmore]
      constructor
      · intro c hc
        obtain ⟨d, more, rfl⟩ := List.exists_cons_of_ne_nil hrun.ne_nil
        exact hrun.forall_mem c (List.mem_of_head? hc)
      · intro c hc
        -- what is joined after the separator is not empty, and its end is the end
        have hjoined : joinWith separator runs ≠ [] := joinWith_ne_nil hmore hruns
        refine hlast c ?_
        rwa [← List.append_assoc, List.getLast?_append, List.getLast?_eq_some_getLast hjoined,
          Option.some_or, ← List.getLast?_eq_some_getLast hjoined] at hc

/-- The runs of a text are the runs of what they are joined to. -/
theorem runsOf_joinWith_runsOf (hne : separator ≠ [])
    (hseparator : ∀ c ∈ separator, p c = false) (s : List Char) :
    runsOf p (joinWith separator (runsOf p s)) = runsOf p s := by
  have hruns := maximalRuns_runsOf p s
  exact (maximalRuns_iff.1
    (maximalRuns_joinWith hne hseparator fun run => hruns.isRun_of_mem)).symm

/-- **Texts with the same runs joined have the same runs.** -/
theorem joinWith_runsOf_inj (hne : separator ≠ []) (hseparator : ∀ c ∈ separator, p c = false)
    (s t : List Char) :
    joinWith separator (runsOf p s) = joinWith separator (runsOf p t) ↔
      runsOf p s = runsOf p t := by
  constructor
  · intro h
    rw [← runsOf_joinWith_runsOf hne hseparator s, h, runsOf_joinWith_runsOf hne hseparator t]
  · intro h
    rw [h]

end Wording

namespace Step

open Text Wording

variable {o : Options} {separator : List Char}

theorem slugify_str (ho : chars o.separator "-" = separator) (s : String) :
    slugify o (.str s) =
      .text (joinWith separator (runsOf isAlphanumeric (lower s.toList))) := by
  rw [slugify, ho]
  rfl

/-- **The slug of a string is made of the words in it.**  The maximal alphanumeric runs of its
lower case stand in it in their order, with the separator between neighbours.  So it neither
begins nor ends in a character of the separator, its maximal alphanumeric runs are the same, and
another string has the same slug just if its lower case has these runs, whatever stands between
them. -/
theorem slugify_runs (ho : chars o.separator "-" = separator) (hne : separator ≠ [])
    (hseparator : ∀ c ∈ separator, isAlphanumeric c = false) (s : String) :
    ∃ runs, (∀ found, MaximalRuns isAlphanumeric (lower s.toList) found ↔ found = runs) ∧
      ∃ slug, slugify o (.str s) = .text slug ∧ slug = joinWith separator runs ∧
        (∀ c ∈ separator, slug.head? ≠ some c ∧ slug.getLast? ≠ some c) ∧
        (∀ found, MaximalRuns isAlphanumeric slug found ↔ found = runs) ∧
        ∀ t : String, slugify o (.str t) = slugify o (.str s) ↔
          MaximalRuns isAlphanumeric (lower t.toList) runs := by
  have hruns := maximalRuns_runsOf isAlphanumeric (lower s.toList)
  refine ⟨_, fun _ => maximalRuns_iff, _, slugify_str ho s, rfl, ?_, ?_, ?_⟩
  · obtain ⟨hfirst, hlast⟩ := joinWith_ends separator fun run => hruns.isRun_of_mem
    intro c hc
    have hother := hseparator c hc
    refine ⟨fun hhead => ?_, fun hend => ?_⟩
    · rw [hfirst c hhead] at hother
      cases hother
    · rw [hlast c hend] at hother
      cases hother
  · intro found
    rw [maximalRuns_iff, runsOf_joinWith_runsOf hne hseparator]
  · intro t
    rw [slugify_str ho, slugify_str ho, Value.text_inj, joinWith_runsOf_inj hne hseparator,
      maximalRuns_iff, eq_comm]

/-- What stands between the words, and whether they have capitals, makes no difference to a
slug. -/
theorem slugify_runs_colours :
    slugify { separator := some "--" } (.str " Blue & Green, (XL)!") =
        .text ['b', 'l', 'u', 'e', '-', '-', 'g', 'r', 'e', 'e', 'n', '-', '-', 'x', 'l'] ∧
      slugify { separator := some "--" } (.str "blue...GREEN\tXl") =
        slugify { separator := some "--" } (.str " Blue & Green, (XL)!") := by
  have hdashes : ∀ c ∈ ['-', '-'], isAlphanumeric c = false := by
    intro c hc
    rw [show c = '-' by simpa using hc]
    decide +kernel
  obtain ⟨runs, hfound, slug, hslug, hjoined, -, -, hsame⟩ :=
    slugify_runs (o := { separator := some "--" }) rfl (List.cons_ne_nil '-' ['-']) hdashes
      " Blue & Green, (XL)!"
  have hruns := (hfound [['b', 'l', 'u', 'e'], ['g', 'r', 'e', 'e', 'n'], ['x', 'l']]).1
    (maximalRuns_iff.2 (by decide +kernel))
  refine ⟨?_, (hsame "blue...GREEN\tXl").2 ?_⟩
  · rw [hslug, hjoined, ← hruns]
    rfl
  · rw [← hruns]
    exact maximalRuns_iff.2 (by decide +kernel)

end Step

end RecordFlow
