import RecordFlow.Terminal.Settings

/-!
# Carrying out scripts

A script of two parts is carried out part by part: what is printed is put together, and the
second part finds the files that the first one leaves (`Script.runOn_bind`).  Two kinds of
scripts need no more attention than that.

* **Some give a result and nothing else** (`Task.Gives`).  Reading a document is of this kind
  where the document is there (`gives_readDocument`).
* **Some only read** (`Script.OnlyReads`).  They may say what is wrong, but they print no
  results, tell the log nothing and write no files.  Loading the settings is of this kind
  (`onlyReads_load`).

Nothing here depends on how texts in YAML or TOML are read: the readers are those that the
command is given.

## Main definitions

* `Outcome.andThen` — what two parts of a script come to.
* `Outcome.behind` — the same after the log has been told something.
* `Task.Gives` — a task gives a result and does nothing else.
* `Task.Warns` — a task gives a result and tells the log some warnings.
* `Script.OnlyReads` — a script at most says what is wrong.
* `Disk.document?` — the value that a file on a disk holds.
-/

namespace RecordFlow.Terminal

variable {α β : Type} {d : Disk} {readers : Readers}

/-- **What two parts come to,** one after the other: the result and the files are those of the
second, and what is printed is put together. -/
def Outcome.andThen (first : Outcome α) (second : Outcome β) : Outcome β :=
  ⟨second.result, first.output ++ second.output, first.error ++ second.error,
    first.log ++ second.log, second.disk⟩

/-- A part that neither prints nor writes does not show. -/
theorem andThen_silent (a : α) (d : Disk) (second : Outcome β) :
    (⟨a, "", "", "", d⟩ : Outcome α).andThen second = second := by
  simp only [Outcome.andThen, String.empty_append]

/-- The same, after the log has been told something. -/
def Outcome.behind (told : String) (o : Outcome α) : Outcome α :=
  { o with log := told ++ o.log }

theorem Outcome.behind_behind (first second : String) (o : Outcome α) :
    (o.behind second).behind first = o.behind (first ++ second) := by
  simp only [behind, String.append_assoc]

/-! ### Scripts of two parts -/

namespace Script

theorem inLines_append (first second : List String) :
    inLines (first ++ second) = inLines first ++ inLines second := by
  rw [inLines, List.map_append, String.join_append]
  rfl

/-- **A script of two parts** is carried out part by part. -/
theorem runOn_bind (m : Script α) (f : α → Script β) (d : Disk) :
    (m >>= f).runOn d =
      (m.runOn d).andThen ((f (m.runOn d).result).runOn (m.runOn d).disk) := by
  show (m.bind f).runOn d = _
  induction m generalizing d with
  | done a => exact (andThen_silent a d _).symm
  | read path next ih => exact ih (d.entry path) d
  | save path content next ih => exact ih _ _
  | print channel text next ih =>
    cases channel with
    | output => simp only [bind, runOn, ih, Outcome.andThen, String.append_assoc]
    | error => simp only [bind, runOn, ih, Outcome.andThen, String.append_assoc]
    | log => simp only [bind, runOn, ih, Outcome.andThen, String.append_assoc]

/-- **The script only reads:** it may say what is wrong, but it prints no results, tells the log
nothing and writes no files.  So the files that the next part finds are those that were
there. -/
structure OnlyReads (m : Script α) : Prop where
  output (d : Disk) : (m.runOn d).output = ""
  log (d : Disk) : (m.runOn d).log = ""
  disk (d : Disk) : (m.runOn d).disk = d

theorem onlyReads_pure (a : α) : (pure a : Script α).OnlyReads :=
  ⟨fun _ => rfl, fun _ => rfl, fun _ => rfl⟩

theorem onlyReads_look (path : String) : (look path).OnlyReads :=
  ⟨fun _ => rfl, fun _ => rfl, fun _ => rfl⟩

theorem onlyReads_say (line : String) : (say .error line).OnlyReads :=
  ⟨fun _ => rfl, fun _ => rfl, fun _ => rfl⟩

theorem OnlyReads.bind {m : Script α} {f : α → Script β} (hm : m.OnlyReads)
    (hf : ∀ a, (f a).OnlyReads) : (m >>= f).OnlyReads := by
  refine ⟨fun d => ?_, fun d => ?_, fun d => ?_⟩
  · rw [runOn_bind, Outcome.andThen, hm.output, (hf _).output]
    rfl
  · rw [runOn_bind, Outcome.andThen, hm.log, (hf _).log]
    rfl
  · rw [runOn_bind, Outcome.andThen, (hf _).disk, hm.disk]

/-- What a script that only reads comes to is settled by its result and what it says. -/
theorem OnlyReads.runOn_eq {m : Script α} (hm : m.OnlyReads) (d : Disk) :
    m.runOn d = ⟨(m.runOn d).result, "", (m.runOn d).error, "", d⟩ := by
  calc m.runOn d
      = ⟨(m.runOn d).result, (m.runOn d).output, (m.runOn d).error, (m.runOn d).log,
          (m.runOn d).disk⟩ := rfl
    _ = ⟨(m.runOn d).result, "", (m.runOn d).error, "", d⟩ := by
      rw [hm.output, hm.log, hm.disk]

end Script

/-! ### Tasks -/

namespace Task

/-- A task of two parts goes on with the result of the first. -/
theorem runOn_bind_of_ok {t : Task α} {a : α} (h : (t.run.runOn d).result = .ok a)
    (f : α → Task β) :
    (t >>= f).run.runOn d =
      (t.run.runOn d).andThen ((f a).run.runOn (t.run.runOn d).disk) := by
  rw [ExceptT.run_bind, Script.runOn_bind, h]

/-- **The task gives a result,** and does nothing else: it neither prints nor writes, and so it
is not seen in what a longer task comes to. -/
def Gives (t : Task α) (d : Disk) (a : α) : Prop :=
  t.run.runOn d = ⟨.ok a, "", "", "", d⟩

/-- **The task fails,** and does nothing else.  A failure is only said at the very end, by the
command line. -/
def Fails (t : Task α) (d : Disk) (f : Failure) : Prop :=
  t.run.runOn d = ⟨.error f, "", "", "", d⟩

/-- What gives its result is passed over. -/
theorem Gives.runOn_bind {t : Task α} {a : α} (h : t.Gives d a) (f : α → Task β) :
    (t >>= f).run.runOn d = (f a).run.runOn d := by
  rw [Gives] at h
  have hok : (t.run.runOn d).result = .ok a := by rw [h]
  rw [runOn_bind_of_ok hok, h, andThen_silent]

theorem Gives.bind {t : Task α} {a : α} {f : α → Task β} {b : β} (h : t.Gives d a)
    (hf : (f a).Gives d b) : (t >>= f).Gives d b :=
  (h.runOn_bind f).trans hf

/-- **The task gives a result** and tells the log some warnings, but does nothing else.  The
warnings are all that is seen of it in what a longer task comes to. -/
def Warns (t : Task α) (d : Disk) (a : α) (messages : List String) : Prop :=
  t.run.runOn d = ⟨.ok a, "", "", Script.inLines messages, d⟩

theorem Gives.warns {t : Task α} {a : α} (h : t.Gives d a) : t.Warns d a [] := h

/-- The warnings of a task come before all that follows. -/
theorem Warns.runOn_bind {t : Task α} {a : α} {messages : List String}
    (h : t.Warns d a messages) (f : α → Task β) :
    (t >>= f).run.runOn d = ((f a).run.runOn d).behind (Script.inLines messages) := by
  rw [Warns] at h
  have hok : (t.run.runOn d).result = .ok a := by rw [h]
  rw [runOn_bind_of_ok hok, h]
  simp only [Outcome.andThen, Outcome.behind, String.empty_append]

theorem Warns.bind_gives {t : Task α} {a : α} {messages : List String} {f : α → Task β} {b : β}
    (h : t.Warns d a messages) (hf : (f a).Gives d b) : (t >>= f).Warns d b messages := by
  rw [Warns, h.runOn_bind, show (f a).run.runOn d = _ from hf]
  simp only [Outcome.behind, String.append_empty]

/-- A failure ends a task of two parts. -/
theorem Fails.bind {t : Task α} {e : Failure} (h : t.Fails d e) (f : α → Task β) :
    (t >>= f).Fails d e := by
  rw [Fails] at h ⊢
  rw [ExceptT.run_bind, Script.runOn_bind, h]
  rfl

theorem gives_pure (a : α) (d : Disk) : (pure a : Task α).Gives d a := rfl

theorem gives_ofExcept (a : α) (d : Disk) : (Task.ofExcept (.ok a)).Gives d a := rfl

theorem fails_ofExcept (e : Failure) (d : Disk) :
    (Task.ofExcept (.error e) : Task α).Fails d e := rfl

/-- A script as a part of a task does what it does. -/
theorem runOn_lift (m : Script α) (d : Disk) :
    (liftM m : Task α).run.runOn d =
      ⟨.ok (m.runOn d).result, (m.runOn d).output, (m.runOn d).error, (m.runOn d).log,
        (m.runOn d).disk⟩ := by
  show (m >>= fun a => pure (Except.ok a)).runOn d = _
  rw [Script.runOn_bind]
  simp only [Outcome.andThen, pure, Script.runOn, String.append_empty]

theorem gives_lift {m : Script α} {a : α} (h : m.runOn d = ⟨a, "", "", "", d⟩) :
    (liftM m : Task α).Gives d a := by
  rw [Gives, runOn_lift, h]

theorem warns_warn (messages : List String) (d : Disk) :
    (liftM (Script.warn messages) : Task Unit).Warns d () messages := by
  rw [Warns, runOn_lift]
  simp only [Script.warn, Script.runOn, String.append_empty]

/-- A task of two parts only reads if both do. -/
theorem onlyReads_bind {t : Task α} {f : α → Task β} (ht : t.run.OnlyReads)
    (hf : ∀ a, (f a).run.OnlyReads) : (t >>= f).run.OnlyReads := by
  rw [ExceptT.run_bind]
  refine ht.bind ?_
  rintro (e | a)
  · exact Script.onlyReads_pure _
  · exact hf a

theorem onlyReads_lift {m : Script α} (hm : m.OnlyReads) : (liftM m : Task α).run.OnlyReads :=
  hm.bind fun a => Script.onlyReads_pure (Except.ok a)

theorem onlyReads_fail (e : Failure) : (Task.fail e : Task α).run.OnlyReads :=
  Script.onlyReads_pure (Except.error e)

/-- A task that is tried only reads if it and what is done instead only read. -/
theorem onlyReads_tryCatch {t : Task α} {handle : Failure → Task α} (ht : t.run.OnlyReads)
    (hhandle : ∀ e, (handle e).run.OnlyReads) : (tryCatch t handle).run.OnlyReads := by
  refine ht.bind ?_
  rintro (e | a)
  · exact hhandle e
  · exact Script.onlyReads_pure _

end Task

/-! ### Documents -/

/-- **The value that a file on a disk holds,** in the language of its name.  It is none where
there is no file, and where the text of the file spells no value. -/
def Disk.document? (d : Disk) (readers : Readers) (shape : Shape) (path : String) :
    Option Value :=
  match d.entry path with
  | .file content => (Language.ofPath path).read? readers shape content
  | _ => none

/-- **A document that is there is read.** -/
theorem gives_readDocument {shape : Shape} {decode : Value → Option α} {path : String} {a : α}
    (h : (d.document? readers shape path).bind decode = some a) :
    (readDocument readers shape decode path).Gives d a := by
  rw [Disk.document?] at h
  cases hentry : d.entry path with
  | missing =>
    rw [hentry] at h
    cases h
  | unreadable reason =>
    rw [hentry] at h
    cases h
  | file content =>
    rw [hentry] at h
    have hlook : (Script.look path).runOn d = ⟨.file content, "", "", "", d⟩ := by
      rw [← hentry]
      rfl
    refine (Task.gives_lift hlook).bind ?_
    dsimp only at h ⊢
    rw [h]
    exact Task.gives_pure a d

/-- Reading a document only reads. -/
theorem onlyReads_readDocument (shape : Shape) (decode : Value → Option α) (path : String) :
    (readDocument readers shape decode path).run.OnlyReads := by
  refine Task.onlyReads_bind (Task.onlyReads_lift (Script.onlyReads_look path)) ?_
  intro entry
  cases entry with
  | missing => exact Task.onlyReads_fail _
  | unreadable reason => exact Task.onlyReads_fail _
  | file content =>
    dsimp only
    split
    · exact Script.onlyReads_pure _
    · exact Task.onlyReads_fail _

/-- **A file that has been written holds what was written into it.** -/
theorem Disk.entry_save {path content : String} (h : (d.save path content).2 = none) :
    (d.save path content).1.entry path = .file content := by
  rw [Disk.save] at h ⊢
  split at h
  · cases h
  · cases h
  · split at h
    · cases h
    · next hfile =>
      rw [if_neg hfile]
      rw [not_or, Bool.not_eq_true, Bool.not_eq_true] at hfile
      simp only [Disk.entry, Disk.text?, List.lookup_cons_self, hfile.2]
      rfl

/-! ### Settings -/

/-- Reading a file of settings only reads. -/
theorem onlyReads_ofFile (path : String) : (Settings.ofFile readers path).run.OnlyReads := by
  refine Task.onlyReads_tryCatch (onlyReads_readDocument _ _ path) ?_
  intro e
  split
  · exact Task.onlyReads_fail _
  · exact Task.onlyReads_fail _

/-- Looking for settings in some places only reads. -/
theorem onlyReads_firstOf (paths : List String) : (Settings.firstOf readers paths).OnlyReads := by
  induction paths with
  | nil => exact Script.onlyReads_pure _
  | cons path rest ih =>
    refine (Script.onlyReads_look path).bind ?_
    intro entry
    split
    · exact ih
    · refine (onlyReads_ofFile path).bind ?_
      rintro (e | s)
      · exact (Script.onlyReads_say _).bind fun _ => ih
      · exact Script.onlyReads_pure _

/-- **Loading the settings only reads.** -/
theorem onlyReads_load (named directory : Option String) :
    (Settings.load readers named directory).run.OnlyReads := by
  cases named with
  | some path => exact onlyReads_ofFile path
  | none => exact Task.onlyReads_lift (onlyReads_firstOf _)

end RecordFlow.Terminal
