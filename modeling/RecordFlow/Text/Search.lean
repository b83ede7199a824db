/-!
# Finding, cutting and joining

Plain substring operations on lists of characters.  Occurrences are found from the
left and do not overlap.

## Main definitions

* `dropPrefix?` — what follows a given beginning.
* `contains`, `endsWith` — whether a text holds, or ends in, another.
* `splitOn` — the parts between the occurrences of a nonempty separator.
* `joinWith` — the parts with a separator between neighbours.
* `replaceAll` — every occurrence of a nonempty text replaced.
-/

namespace RecordFlow.Text

/-- What follows `start` in the text, when the text begins with it. -/
def dropPrefix? : List Char → List Char → Option (List Char)
  | [], s => some s
  | _ :: _, [] => none
  | p :: ps, c :: s => if p = c then dropPrefix? ps s else none

/-- What is left is a suffix of the text. -/
theorem length_of_dropPrefix? {p s r : List Char} (h : dropPrefix? p s = some r) :
    s.length = p.length + r.length := by
  induction p generalizing s with
  | nil => simp_all [dropPrefix?]
  | cons a p ih =>
    cases s with
    | nil => simp [dropPrefix?] at h
    | cons c s =>
      by_cases hc : a = c
      · simp only [dropPrefix?, hc, if_true] at h
        have := ih h
        simp only [List.length_cons]
        omega
      · simp [dropPrefix?, hc] at h

/-- Whether `needle` begins the text. -/
def startsWith (s needle : List Char) : Bool :=
  (dropPrefix? needle s).isSome

/-- Whether `needle` ends the text. -/
def endsWith (s needle : List Char) : Bool :=
  startsWith s.reverse needle.reverse

/-- Whether `needle` occurs in the text. -/
def contains : List Char → List Char → Bool
  | [], needle => needle.isEmpty
  | c :: s, needle => startsWith (c :: s) needle || contains s needle

/-- The text before the first occurrence of a separator, and the text after it. -/
def cutAt? (separator : List Char) : List Char → Option (List Char × List Char)
  | [] => (dropPrefix? separator []).map ([], ·)
  | c :: s =>
    match dropPrefix? separator (c :: s) with
    | some rest => some ([], rest)
    | none => (cutAt? separator s).map fun (before, after) => (c :: before, after)

/-- A cut at a separator takes the separator away. -/
theorem length_of_cutAt? {sep s before after : List Char}
    (h : cutAt? sep s = some (before, after)) :
    s.length = before.length + sep.length + after.length := by
  induction s generalizing before with
  | nil =>
    simp only [cutAt?, Option.map_eq_some_iff] at h
    obtain ⟨r, hr, he⟩ := h
    have := length_of_dropPrefix? hr
    simp only [Prod.mk.injEq] at he
    obtain ⟨rfl, rfl⟩ := he
    simpa using this
  | cons c s ih =>
    rw [cutAt?] at h
    split at h
    · rename_i r hr
      have := length_of_dropPrefix? hr
      simp only [Option.some.injEq, Prod.mk.injEq] at h
      obtain ⟨rfl, rfl⟩ := h
      simpa using this
    · simp only [Option.map_eq_some_iff, Prod.mk.injEq] at h
      obtain ⟨⟨b, a⟩, hb, rfl, rfl⟩ := h
      have := ih hb
      simp only [List.length_cons] at this ⊢
      omega

/-- The parts of a text between the occurrences of a separator.  An empty separator
occurs nowhere, so that it leaves the text in one part. -/
def splitOn (separator s : List Char) : List (List Char) :=
  if _hs : separator = [] then [s]
  else
    match _h : cutAt? separator s with
    | none => [s]
    | some (before, after) => before :: splitOn separator after
termination_by s.length
decreasing_by
  have := length_of_cutAt? _h
  have : 0 < separator.length := List.length_pos_iff.2 _hs
  omega

/-- The parts one after the other, with `separator` between neighbours. -/
def joinWith (separator : List Char) : List (List Char) → List Char
  | [] => []
  | [part] => part
  | part :: next :: rest => part ++ separator ++ joinWith separator (next :: rest)

/-- Every occurrence of a nonempty text replaced by another. -/
def replaceAll (search replacement s : List Char) : List Char :=
  joinWith replacement (splitOn search s)

end RecordFlow.Text
