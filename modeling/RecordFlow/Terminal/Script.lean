import RecordFlow.Text.Search

/-!
# Scripts

A command reads files, writes files and prints.  It is described by a script, a tree whose
branches are what the surroundings may answer.  The same script can be carried out on real
files, or on a disk that is a list of texts.

## Main definitions

* `Terminal.Entry` — what stands at a path.
* `Terminal.SaveFailure` — why a file could not be written.
* `Terminal.Script` — what a command does.
* `Terminal.Disk` — files held as texts.
* `Terminal.Script.runOn` — a script carried out on a disk.
-/

namespace RecordFlow.Terminal

/-- **What stands at a path.** -/
inductive Entry where
  /-- Nothing. -/
  | missing
  /-- A file with this text. -/
  | file (content : String)
  /-- Something that cannot be read as a text, and why. -/
  | unreadable (reason : String)

/-- **Why a file could not be written.** -/
inductive SaveFailure where
  /-- The directory for it could not be made. -/
  | directory (reason : String)
  /-- The file itself could not be written. -/
  | file (reason : String)

/-- **What a command prints on.** -/
inductive Channel where
  /-- Results, and what a reader is told besides. -/
  | output
  /-- Why a command fails, and what is wrong with its settings. -/
  | error
  /-- Warnings for the log, which may end up anywhere or nowhere: the log has a level and a
  layout of its own. -/
  | log
deriving DecidableEq

/-- **What a command does,** step by step. -/
inductive Script (α : Type) where
  /-- Nothing more; this is the result. -/
  | done (result : α)
  /-- Look at a path, and go on with what stands there. -/
  | read (path : String) (next : Entry → Script α)
  /-- Write a file together with its directories, and go on with the failure if there is one. -/
  | save (path content : String) (next : Option SaveFailure → Script α)
  /-- Print a text, and go on. -/
  | print (channel : Channel) (text : String) (next : Script α)

namespace Script

variable {α β : Type}

/-- One script after another. -/
def bind : Script α → (α → Script β) → Script β
  | done a, f => f a
  | read path next, f => read path fun entry => (next entry).bind f
  | save path content next, f => save path content fun failure => (next failure).bind f
  | print channel text next, f => print channel text (next.bind f)

instance : Monad Script where
  pure := done
  bind := bind

/-- What stands at a path. -/
def look (path : String) : Script Entry :=
  read path done

/-- A file written together with its directories. -/
def store (path content : String) : Script (Option SaveFailure) :=
  save path content done

/-- A line printed. -/
def say (channel : Channel) (line : String) : Script Unit :=
  print channel (line ++ "\n") (done ())

/-- Some lines on end. -/
def inLines (lines : List String) : String :=
  String.join (lines.map (· ++ "\n"))

/-- Some warnings for the log. -/
def warn (messages : List String) : Script Unit :=
  print .log (inLines messages) (done ())

end Script

/-- The directory that a file lies in, where its path names one. -/
def directoryOf? (path : String) : Option String :=
  match path.toList.reverse.dropWhile (· != '/') with
  | [] => none
  | ['/'] => none
  | _ :: rest => some (String.ofList rest.reverse)

/-! ### Files held as texts -/

/-- **Files held as texts,** each under the names on the way to it. -/
structure Disk where
  /-- The files. -/
  files : List (List String × String) := []

namespace Disk

/-- The names on the way to a path; `.` and empty names lead nowhere else. -/
def names (path : String) : List String :=
  ((Text.splitOn ['/'] path.toList).map String.ofList).filter fun name =>
    name ≠ "" ∧ name ≠ "."

/-- Whether a path can only be that of a directory. -/
def namesDirectory (path : String) : Bool :=
  Text.endsWith path.toList ['/']

/-- The disk with some files. -/
def ofList (files : List (String × String)) : Disk :=
  ⟨files.map fun (path, content) => (names path, content)⟩

/-- Whether a path is a directory, which it is when a file lies below it. -/
def isDirectory (d : Disk) (path : List String) : Bool :=
  path.isEmpty || d.files.any fun (file, _) => path.isPrefixOf file && path != file

/-- The text of a file. -/
def text? (d : Disk) (path : List String) : Option String :=
  d.files.lookup path

/-- What stands at a path. -/
def entry (d : Disk) (path : String) : Entry :=
  match d.text? (names path) with
  | some content => if namesDirectory path then .missing else .file content
  | none =>
    if path ≠ "" ∧ d.isDirectory (names path) then .unreadable "Is a directory (os error 21)"
    else .missing

/-- Whether a file lies where a directory on the way to a path should be, and whether it is the
last one. -/
def obstacle? (d : Disk) (path : List String) : Option Bool :=
  (List.range path.length).findSome? fun n =>
    if n ≠ 0 ∧ (d.text? (path.take n)).isSome then some (n + 1 == path.length) else none

/-- The disk with a file written, or why that is not possible. -/
def save (d : Disk) (path content : String) : Disk × Option SaveFailure :=
  let file := names path
  match d.obstacle? file with
  | some true => (d, some (.directory "File exists (os error 17)"))
  | some false => (d, some (.directory "Not a directory (os error 20)"))
  | none =>
    if d.isDirectory file ∨ namesDirectory path then
      (d, some (.file "Is a directory (os error 21)"))
    else (⟨(file, content) :: d.files.filter (·.1 != file)⟩, none)

end Disk

/-- **What carrying out a script comes to.** -/
structure Outcome (α : Type) where
  /-- The result. -/
  result : α
  /-- What was printed on the channel for output. -/
  output : String
  /-- What was printed on the channel for errors. -/
  error : String
  /-- The warnings that the log was told. -/
  log : String
  /-- The files after it. -/
  disk : Disk

/-- **A script carried out on a disk.** -/
def Script.runOn {α : Type} (d : Disk) : Script α → Outcome α
  | done a => ⟨a, "", "", "", d⟩
  | read path next => (next (d.entry path)).runOn d
  | save path content next =>
    let (after, failure) := d.save path content
    (next failure).runOn after
  | print channel text next =>
    let o := next.runOn d
    match channel with
    | .output => { o with output := text ++ o.output }
    | .error => { o with error := text ++ o.error }
    | .log => { o with log := text ++ o.log }

end RecordFlow.Terminal
