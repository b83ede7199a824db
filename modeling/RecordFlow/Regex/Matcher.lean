import RecordFlow.Regex.Pattern

/-!
# Matching

A pattern is compiled to a machine, a row of instructions that each know which comes
next.  The machine is run in all possible ways at once, through the text from left to
right: the threads are kept in the order of preference, and no two of them stand at the
same instruction.  So the time is bounded by the length of the text times the size of
the machine, and of all matches from the leftmost possible start the preferred one is
found.

## Main definitions

* `Instr`, `Machine` — the instructions of a machine.
* `Pattern.compile` — the machine of a pattern.
* `Place` — a place in a text, with what is before and after it.
* `Machine.find?` — the first match from a place on, with the places of its groups.
-/

namespace RecordFlow.Regex

/-! ### The machine -/

/-- **An instruction,** with the number of the one that comes next. -/
inductive Instr where
  /-- Take a character of a set. -/
  | take (s : Text.CodeRanges) (next : Nat)
  /-- Go on in two ways, of which the first is preferred. -/
  | split (first second : Nat)
  /-- Keep the present place under a number. -/
  | keep (slot next : Nat)
  /-- Go on only at a place of some kind. -/
  | check (a : Assertion) (next : Nat)
  /-- A match is complete. -/
  | accept

/-- **A machine:** its instructions and the number of the first one. -/
structure Machine where
  /-- The instructions. -/
  code : Array Instr
  /-- The number of the first instruction. -/
  start : Nat

/-- Add an instruction; its number comes first. -/
def emit (instr : Instr) (code : Array Instr) : Nat × Array Instr :=
  (code.size, code.push instr)

/-- A choice between going on with a body and leaving it. -/
def choose (greedy : Bool) (body leave : Nat) : Instr :=
  if greedy then .split body leave else .split leave body

/-- Apply a compiler of one copy some number of times, from the last copy to the
first. -/
def copies (one : Nat → Array Instr → Nat × Array Instr) :
    Nat → Nat → Array Instr → Nat × Array Instr
  | 0, next, code => (next, code)
  | n + 1, next, code =>
    let (start, code) := one next code
    copies one n start code

/-- A body any number of times, but at least once: after each time it is begun again or
left. -/
def loopAtLeastOnce (one : Nat → Array Instr → Nat × Array Instr) (greedy : Bool)
    (next : Nat) (code : Array Instr) : Nat × Array Instr :=
  let (again, code) := emit .accept code
  let (body, code) := one again code
  (body, code.setIfInBounds again (choose greedy body next))

/-- The instructions of a pattern, followed by the instruction `next`; the number of
the first of them comes first. -/
def Pattern.emitBefore : Pattern → Nat → Array Instr → Nat × Array Instr
  | empty, next, code => (next, code)
  | set s, next, code => emit (.take ⟨s.intervals.toArray⟩ next) code
  | assertion a, next, code => emit (.check a next) code
  | seq p q, next, code =>
    let (middle, code) := q.emitBefore next code
    p.emitBefore middle code
  | either p q, next, code =>
    let (second, code) := q.emitBefore next code
    let (first, code) := p.emitBefore next code
    emit (.split first second) code
  | group index p, next, code =>
    let (close, code) := emit (.keep (2 * index + 1) next) code
    let (body, code) := p.emitBefore close code
    emit (.keep (2 * index) body) code
  | repeated p 0 none greedy, next, code =>
    if p.mayBeEmpty then
      let (body, code) := loopAtLeastOnce p.emitBefore greedy next code
      emit (choose greedy body next) code
    else
      let (again, code) := emit .accept code
      let (body, code) := p.emitBefore again code
      (again, code.setIfInBounds again (choose greedy body next))
  | repeated p (n + 1) none greedy, next, code =>
    let (last, code) := loopAtLeastOnce p.emitBefore greedy next code
    copies p.emitBefore n last code
  | repeated p least (some most) greedy, next, code =>
    let optional (after : Nat) (code : Array Instr) : Nat × Array Instr :=
      let (body, code) := p.emitBefore after code
      emit (choose greedy body next) code
    let (start, code) := copies optional (most - least) next code
    copies p.emitBefore least start code

/-- **The machine of a pattern,** which keeps the place of the whole match as that of
group zero. -/
def Pattern.compile (p : Pattern) : Machine :=
  let (start, code) := (group 0 p).emitBefore 0 #[.accept]
  ⟨code, start⟩

/-! ### Places -/

/-- **A place in a text.** -/
structure Place where
  /-- The number of characters before the place. -/
  index : Nat
  /-- The character before the place. -/
  before : Option Char
  /-- The characters after the place. -/
  after : List Char

namespace Place

/-- The place after one more character. -/
def advance (p : Place) : Place :=
  match p.after with
  | [] => p
  | c :: rest => ⟨p.index + 1, some c, rest⟩

end Place

/-- Whether the character is a word character, of ASCII alone where `unicode` is not
set. -/
def isWordChar (unicode : Bool) (c : Option Char) : Bool :=
  match c with
  | none => false
  | some c => if unicode || c.toNat < 128 then Text.isWord c else false

/-- **Whether an assertion holds at a place.** -/
def Assertion.holds (p : Place) : Assertion → Bool
  | textStart => p.before.isNone
  | textEnd => p.after.isEmpty
  | lineStart crlf =>
    match p.before with
    | none => true
    | some c => c == '\n' || (crlf && c == '\r' && p.after.head? != some '\n')
  | lineEnd crlf =>
    match p.after.head? with
    | none => true
    | some c =>
      if crlf then c == '\r' || (c == '\n' && p.before != some '\r') else c == '\n'
  | wordBoundary u => isWordChar u p.before != isWordChar u p.after.head?
  | notWordBoundary u => isWordChar u p.before == isWordChar u p.after.head?
  | wordStart u => !isWordChar u p.before && isWordChar u p.after.head?
  | wordEnd u => isWordChar u p.before && !isWordChar u p.after.head?
  | wordStartHalf u => !isWordChar u p.before
  | wordEndHalf u => !isWordChar u p.after.head?

/-! ### Running a machine -/

/-- The places kept by a thread, by number; the newest for a number comes first. -/
abbrev Kept := List (Nat × Nat)

/-- **A thread:** the instruction it stands at, and the places it has kept. -/
structure Thread where
  /-- The number of the instruction. -/
  pc : Nat
  /-- The places kept. -/
  kept : Kept

/-- The threads that wait for a character or have a match, in the order of preference,
and the instructions that have been reached. -/
structure Front where
  /-- The threads, the least preferred first. -/
  threads : List Thread
  /-- Which instructions have been reached. -/
  reached : Array Bool

/-- The front that nothing has reached. -/
def Front.empty (m : Machine) : Front :=
  ⟨[], Array.replicate m.code.size false⟩

/-- Follow threads, in order, to the instructions where they have to wait.  An
instruction that has been reached is not reached again, so that after `steps` steps,
one for each thread and two for each instruction, all have been followed. -/
def follow (m : Machine) (p : Place) : Nat → List Thread → Front → Front
  | 0, _, front => front
  | _, [], front => front
  | steps + 1, t :: rest, front =>
    if front.reached.getD t.pc true then follow m p steps rest front
    else
      let front := { front with reached := front.reached.setIfInBounds t.pc true }
      match m.code[t.pc]? with
      | none => follow m p steps rest front
      | some (.take ..) | some .accept =>
        follow m p steps rest { front with threads := t :: front.threads }
      | some (.split first second) =>
        follow m p steps (⟨first, t.kept⟩ :: ⟨second, t.kept⟩ :: rest) front
      | some (.keep slot next) =>
        follow m p steps (⟨next, (slot, p.index) :: t.kept⟩ :: rest) front
      | some (.check a next) =>
        if a.holds p then follow m p steps (⟨next, t.kept⟩ :: rest) front
        else follow m p steps rest front

/-- Add a thread to a front, below those that are there. -/
def Front.add (m : Machine) (p : Place) (front : Front) (t : Thread) : Front :=
  follow m p (2 * m.code.size + 1) [t] front

/-- Move threads, in the order of preference, over the character `c` to the place `p`.
A thread with a match cuts off those after it. -/
def advanceThreads (m : Machine) (c : Option Char) (p : Place) :
    List Thread → Front → Option Kept → Front × Option Kept
  | [], next, found => (next, found)
  | t :: rest, next, found =>
    match m.code[t.pc]? with
    | some .accept => (next, some t.kept)
    | some (.take s n) =>
      if (c.map fun c => s.contains c.toNat).getD false then
        advanceThreads m c p rest (next.add m p ⟨n, t.kept⟩) found
      else advanceThreads m c p rest next found
    | _ => advanceThreads m c p rest next found

/-- Run the machine from a place on.  As long as there is no match a new thread begins
at each place, below the others. -/
def scan (m : Machine) : List Char → Place → Front → Option Kept → Option Kept
  | text, p, front, found =>
    let front := if found.isNone then front.add m p ⟨m.start, []⟩ else front
    match text with
    | [] => (advanceThreads m none p front.threads.reverse (.empty m) found).2
    | c :: rest =>
      if found.isSome && front.threads.isEmpty then found
      else
        let q : Place := ⟨p.index + 1, some c, rest⟩
        let (next, found) :=
          advanceThreads m (some c) q front.threads.reverse (.empty m) found
        scan m rest q next found

/-- **The first match from a place on:** the places kept by its thread. -/
def Machine.find? (m : Machine) (p : Place) : Option Kept :=
  scan m p.after p (.empty m) none

/-- The first and last place of a group in a match. -/
def groupSpan? (kept : Kept) (index : Nat) : Option (Nat × Nat) :=
  match kept.lookup (2 * index), kept.lookup (2 * index + 1) with
  | some first, some last => some (first, last)
  | _, _ => none

end RecordFlow.Regex
