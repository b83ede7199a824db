import RecordFlow.Formula.Template
import RecordFlow.Proofs.Text.Scanning

/-!
# What a template is filled in with

A template is put together from literal parts and tokens in turn.  Filling it in keeps the
literal parts and puts in the place of each token the text of what stands at its path
(`interpolate_text`).  What is put in is not looked at again, whatever dollar signs and braces
it holds: it may look like a token, or become one with what stands beside it, and it stays as it
is.

A literal part may hold dollar signs and braces too, but no dollar sign right before an opening
brace.  So a token begins where the first such pair stands (`cutAt?_opening`), even behind a
literal part that ends in a dollar sign, and it ends with the next closing brace.

## Main definitions

* `Chunk`, `Token` — the literal parts and the tokens of a template.
* `Template` — literal parts with tokens between them, with `text`, `paths` and `filled`.
-/

namespace RecordFlow.Formula

open Text

variable {s : List Char}

/-! ### Templates in parts -/

/-- **A literal part of a template,** in which no token begins.  A dollar sign or a brace alone
may stand in it. -/
structure Chunk where
  /-- The characters. -/
  text : List Char
  opens_nothing : ¬ ['$', '{'] <:+: text

/-- **A token,** by what stands between its braces.  It ends at the first closing brace, so that
none stands inside. -/
structure Token where
  /-- The text between the braces. -/
  inside : List Char
  closes_nowhere : '}' ∉ inside

/-- **A template in parts:** a literal part, and tokens with a literal part after each.  What is
filled in is told part by part, and so nothing that is filled in is ever read as a token. -/
structure Template where
  /-- The literal part before the first token. -/
  first : Chunk
  /-- The tokens, each with the literal part after it. -/
  rest : List (Token × Chunk)

/-- The text of a token. -/
def Token.text (t : Token) : List Char :=
  '$' :: '{' :: (t.inside ++ ['}'])

/-- The path that a token names. -/
def Token.path (t : Token) : List Char :=
  trim t.inside

/-- **What a token stands for:** the value at hand, or what stands at a path of the record. -/
def Token.value (record value : Value) (t : Token) : Value :=
  if t.path = "value".toList then value else record.resolve (String.ofList t.path)

namespace Template

/-- The text of a template. -/
def text (t : Template) : List Char :=
  t.first.text ++ t.rest.flatMap fun (token, chunk) => token.text ++ chunk.text

/-- The template with something else in the place of each token. -/
def filled (t : Template) (expand : Token → List Char) : List Char :=
  t.first.text ++ t.rest.flatMap fun (token, chunk) => expand token ++ chunk.text

/-- The paths of the record that a template names. -/
def paths (t : Template) : List (List Char) :=
  (t.rest.map fun (token, _) => token.path).filter (· ≠ "value".toList)

end Template

/-! ### Where a token begins -/

/-- **A token begins behind a literal part,** and not within it or across its end. -/
theorem cutAt?_opening (chunk : Chunk) (s : List Char) :
    cutAt? ['$', '{'] (chunk.text ++ '$' :: '{' :: s) = some (chunk.text, s) := by
  obtain ⟨text, h⟩ := chunk
  induction text with
  | nil => rfl
  | cons c text ih =>
    have hprefix : dropPrefix? ['$', '{'] (c :: (text ++ '$' :: '{' :: s)) = none := by
      rw [Option.eq_none_iff_forall_ne_some]
      intro r hr
      cases text with
      -- a dollar sign before the token is followed by the one of the token
      | nil => cases dropPrefix?_eq_some_iff.1 hr
      | cons d text =>
        cases dropPrefix?_eq_some_iff.1 hr
        exact h ⟨[], text, rfl⟩
    have hrest : ¬ ['$', '{'] <:+: text := fun hinfix => h (List.infix_cons hinfix)
    rw [List.cons_append, cutAt?, hprefix, ih hrest]
    rfl

/-! ### One token at a time -/

/-- A literal part stays as it is. -/
theorem expandTokens_chunk (expand : List Char → List Char) (chunk : Chunk) :
    expandTokens expand chunk.text = chunk.text := by
  rw [expandTokens]
  split
  · rfl
  · next opened =>
    rw [cutAt?_eq_none chunk.opens_nothing] at opened
    cases opened

/-- A token behind a literal part is replaced, and what follows it is read on its own. -/
theorem expandTokens_token (expand : List Char → List Char) (chunk : Chunk) (token : Token)
    (s : List Char) :
    expandTokens expand (chunk.text ++ (token.text ++ s)) =
      chunk.text ++ (expand token.inside ++ expandTokens expand s) := by
  have htext : token.text ++ s = '$' :: '{' :: (token.inside ++ '}' :: s) := by
    simp [Token.text]
  have hclosed := cutAt?_singleton_append token.closes_nowhere s
  rw [htext, expandTokens]
  split
  · next opened =>
    rw [cutAt?_opening] at opened
    cases opened
  · next opened =>
    rw [cutAt?_opening] at opened
    cases opened
    split
    · next closed =>
      rw [hclosed] at closed
      cases closed
    · next closed =>
      rw [hclosed] at closed
      cases closed
      rw [List.append_assoc]

/-- **Each token of a template is replaced,** and all else stays. -/
theorem expandTokens_text (expand : List Char → List Char) (t : Template) :
    expandTokens expand t.text = t.filled fun token => expand token.inside := by
  obtain ⟨first, rest⟩ := t
  induction rest generalizing first with
  | nil => simpa [Template.text, Template.filled] using expandTokens_chunk expand first
  | cons pair rest ih =>
    obtain ⟨token, chunk⟩ := pair
    have htext : (Template.mk first ((token, chunk) :: rest)).text =
        first.text ++ (token.text ++ (Template.mk chunk rest).text) := by
      simp [Template.text]
    have hfilled : (Template.mk first ((token, chunk) :: rest)).filled
          (fun token => expand token.inside) =
        first.text ++ (expand token.inside ++
          (Template.mk chunk rest).filled fun token => expand token.inside) := by
      simp [Template.filled]
    rw [htext, hfilled, expandTokens_token, ih]

/-! ### Filling in -/

/-- Templates are filled in alike where the same is put in for every token. -/
theorem Template.filled_congr {t : Template} {f g : Token → List Char}
    (h : ∀ token chunk, (token, chunk) ∈ t.rest → f token = g token) :
    t.filled f = t.filled g := by
  rw [filled, filled, List.flatMap_def, List.flatMap_def]
  congr 2
  refine List.map_congr_left ?_
  rintro ⟨token, chunk⟩ hmem
  show f token ++ chunk.text = g token ++ chunk.text
  rw [h token chunk hmem]

/-- A path that is not the word for the value at hand is named by the template. -/
theorem Template.mem_paths {t : Template} {token : Token} {chunk : Chunk}
    (hmem : (token, chunk) ∈ t.rest) (h : token.path ≠ "value".toList) :
    token.path ∈ t.paths := by
  rw [paths, List.mem_filter]
  exact ⟨List.mem_map_of_mem hmem, decide_eq_true h⟩

/-- **What a template is filled in with.**  The literal parts stand in the result as they are
and in their order, with the text of what each token stands for in its place, whatever that text
is.  So two records with the same at the paths that the template names give the same result.

A text that is filled in may itself look like a token, and then it stands in the result just so:
the template is read once, and the result is not read at all. -/
theorem interpolate_text (t : Template) (record value : Value) :
    interpolate t.text record value = t.filled (fun token => (token.value record value).display) ∧
      ∀ other : Value,
        (∀ path ∈ t.paths,
          record.resolve (String.ofList path) = other.resolve (String.ofList path)) →
        interpolate t.text record value = interpolate t.text other value := by
  have hfilled (r : Value) :
      interpolate t.text r value = t.filled fun token => (token.value r value).display := by
    rw [interpolate, expandTokens_text]
    refine congrArg t.filled (funext fun token => ?_)
    show (if token.path = "value".toList then value.display
      else (r.resolve (String.ofList token.path)).display) = (token.value r value).display
    rw [Token.value, apply_ite Value.display]
  refine ⟨hfilled record, ?_⟩
  intro other hagree
  rw [hfilled, hfilled]
  refine Template.filled_congr ?_
  intro token chunk hmem
  unfold Token.value
  split
  · rfl
  · next h => rw [hagree token.path (Template.mem_paths hmem h)]

/-- A token behind a dollar sign, one for the value at hand, and braces around them. -/
def priceTag : Template where
  first := ⟨['$'], by decide⟩
  rest :=
    [(⟨[' ', 'a', ' '], by decide⟩, ⟨['}', '{'], by decide⟩),
      (⟨"value".toList, by decide⟩, ⟨['$', '}'], by decide⟩)]

/-- A record whose text at a path looks like a token. -/
def tokenRecord : Value :=
  .obj [("a", .text ['$', '{', 'b', '}']), ("b", .str "unread")]

/-- What looks like a token once it is put in stays as it is, and what it would name does not
matter. -/
theorem interpolate_text_priceTag :
    String.ofList (interpolate priceTag.text tokenRecord (.text ['{', 'a', '}'])) =
        "$$\x7bb\x7d\x7d\x7b\x7ba\x7d$\x7d" ∧
      (∀ path ∈ priceTag.paths, tokenRecord.resolve (String.ofList path) =
        (Value.obj [("a", .text ['$', '{', 'b', '}'])]).resolve (String.ofList path)) ∧
      interpolate priceTag.text tokenRecord (.text ['{', 'a', '}']) =
        interpolate priceTag.text (.obj [("a", .text ['$', '{', 'b', '}'])])
          (.text ['{', 'a', '}']) := by
  have hagree : ∀ path ∈ priceTag.paths, tokenRecord.resolve (String.ofList path) =
      (Value.obj [("a", .text ['$', '{', 'b', '}'])]).resolve (String.ofList path) := by
    have hpaths : priceTag.paths = [['a']] := by decide
    have hsegments : segments (String.ofList ['a']) = ["a"] := by decide +kernel
    rw [hpaths]
    intro path hpath
    rw [List.mem_singleton.1 hpath, Value.resolve, Value.resolve, Value.resolve?, Value.resolve?,
      hsegments]
    rfl
  refine ⟨?_, hagree, (interpolate_text priceTag tokenRecord _).2 _ hagree⟩
  rw [(interpolate_text priceTag tokenRecord _).1]
  decide +kernel

end RecordFlow.Formula
