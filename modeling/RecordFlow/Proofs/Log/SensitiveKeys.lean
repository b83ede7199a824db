import RecordFlow.Log.Redaction
import RecordFlow.Proofs.Text.Casing

/-!
# What stands under sensitive keys

Redaction of data hides whatever stands under a sensitive key and keeps the form of everything
else.  The result does not depend on what was hidden: two values that differ only under
sensitive keys are redacted to the same value.  And nothing else of the form is lost: outside of
what is hidden, every key, every length and every scalar but the strings stands where it stood
(`redactValue_of_agree`).

A key is sensitive if it holds one of a list of words.  The labels of secrets in texts are
another list.  With one exception a key that holds a label is sensitive, so that the value under
it is hidden, or a value around it (`hidden_of_holdsLabel`).  The exception is `api-key`: it is
a label, and no word of a sensitive key (`exists_holdsLabel_not_hidden`).

A place in a value is a row of moves from it, to a field or to an item.  What redaction does in
one move is said once (`item?_redactValue`); all that is said of places follows along the row.

## Main definitions

* `Move`, `Value.at?` — the places in a value.
* `Surface`, `Value.surface` — what can be seen of a value that is not the text of a string.
* `Agree` — two values differ only under sensitive keys.
* `HoldsLabel` — a key holds a label, in any case of its ASCII letters.
-/

namespace RecordFlow.Log

/-! ### Places in a value -/

/-- **A move into a value.**  A row of moves is a place in it, and the place is hidden if one of
them is to what stands under a sensitive key. -/
inductive Move where
  /-- To the field of an object with a name. -/
  | key (name : String)
  /-- To the item of an array at an index. -/
  | index (i : Nat)
deriving DecidableEq

/-- Whether the move is to what stands under a sensitive key. -/
def Move.isSensitive : Move → Bool
  | key name => isSensitiveKey name
  | index _ => false

/-- What one move leads to. -/
def item? : Value → Move → Option Value
  | .obj fields, .key name => Fields.get? fields name
  | .arr items, .index i => items[i]?
  | _, _ => none

/-- **What a row of moves leads to.** -/
def at? : Value → List Move → Option Value
  | v, [] => some v
  | v, move :: place => (item? v move).bind (at? · place)

/-- **What can be seen of a value** that is neither within it nor the text of a string.  This is
what redaction keeps: the text of strings it may change anywhere, and what is within a value is
seen at other places. -/
inductive Surface where
  | null
  | bool (b : Bool)
  | num (n : Number)
  | str
  | arr (length : Nat)
  | obj (keys : List String)
deriving DecidableEq

/-- The surface of a value. -/
def surface : Value → Surface
  | .null => .null
  | .bool b => .bool b
  | .num n => .num n
  | .str _ => .str
  | .arr items => .arr items.length
  | .obj fields => .obj (fields.map (·.1))

mutual

/-- **Two values agree outside of what is sensitive:** they have the same form and the same
scalars, whatever stands under sensitive keys. -/
inductive Agree : Value → Value → Prop
  | null : Agree .null .null
  | bool (b : Bool) : Agree (.bool b) (.bool b)
  | num (n : Number) : Agree (.num n) (.num n)
  | str (s : String) : Agree (.str s) (.str s)
  | arr {items others : List Value} (h : AgreeItems items others) :
    Agree (.arr items) (.arr others)
  | obj {fields others : Fields} (h : AgreeFields fields others) :
    Agree (.obj fields) (.obj others)

/-- The items of two arrays agree one by one. -/
inductive AgreeItems : List Value → List Value → Prop
  | nil : AgreeItems [] []
  | cons {v w : Value} {items others : List Value} (h : Agree v w)
    (hrest : AgreeItems items others) : AgreeItems (v :: items) (w :: others)

/-- The fields of two objects have the same names, and agree one by one where the name is not
sensitive. -/
inductive AgreeFields : Fields → Fields → Prop
  | nil : AgreeFields [] []
  | shown {key : String} {v w : Value} {fields others : Fields} (h : Agree v w)
    (hrest : AgreeFields fields others) : AgreeFields ((key, v) :: fields) ((key, w) :: others)
  | hidden {key : String} {v w : Value} {fields others : Fields}
    (h : isSensitiveKey key = true) (hrest : AgreeFields fields others) :
    AgreeFields ((key, v) :: fields) ((key, w) :: others)

end

variable {v w : Value} {items others : List Value} {fields : Fields} {key : String}
variable {place : List Move} {label : List Char}

/-! ### Redaction in one move -/

theorem redactItems_eq_map (items : List Value) : redactItems items = items.map redactValue := by
  induction items with
  | nil => rfl
  | cons item rest ih => rw [redactItems, ih, List.map_cons]

theorem redactFields_eq_map (fields : Fields) :
    redactFields fields = fields.map fun (key, value) =>
      (key, if isSensitiveKey key then hidden else redactValue value) := by
  induction fields with
  | nil => rfl
  | cons field rest ih => rw [redactFields, ih, List.map_cons]

theorem get?_redactFields (fields : Fields) (key : String) :
    Fields.get? (redactFields fields) key =
      (Fields.get? fields key).map fun value =>
        if isSensitiveKey key then hidden else redactValue value := by
  induction fields with
  | nil => rfl
  | cons field rest ih =>
    obtain ⟨name, value⟩ := field
    rw [redactFields, Fields.get?, Fields.get?, ih]
    by_cases hname : name = key
    · rw [if_pos hname, if_pos hname, hname, Option.map_some]
    · rw [if_neg hname, if_neg hname]

/-- **What redaction leaves at one move:** what was there is redacted, or hidden if it stands
under a sensitive key. -/
theorem item?_redactValue (v : Value) (move : Move) :
    item? (redactValue v) move =
      (item? v move).map fun w => if move.isSensitive then hidden else redactValue w := by
  cases v with
  | obj fields =>
    cases move with
    | key name => exact get?_redactFields fields name
    | index i => rfl
  | arr items =>
    cases move with
    | key name => rfl
    | index i =>
      rw [redactValue, item?, item?, redactItems_eq_map, List.getElem?_map]
      rfl
  | _ => cases move <;> rfl

/-- Redaction keeps what can be seen of a value. -/
theorem surface_redactValue (v : Value) : surface (redactValue v) = surface v := by
  cases v with
  | arr items => rw [redactValue, surface, surface, redactItems_eq_map, List.length_map]
  | obj fields =>
    rw [redactValue, surface, surface, redactFields_eq_map, List.map_map]
    rfl
  | _ => rfl

/-! ### Redaction in any place -/

/-- **Outside of what is hidden, redaction leaves in each place what was there, redacted.** -/
theorem at?_redactValue (hplace : ∀ move ∈ place, move.isSensitive = false) (v : Value) :
    at? (redactValue v) place = (at? v place).map redactValue := by
  induction place generalizing v with
  | nil => rfl
  | cons move place ih =>
    obtain ⟨hmove, hplace⟩ := List.forall_mem_cons.1 hplace
    rw [at?, at?, item?_redactValue]
    cases item? v move with
    | none => rfl
    | some w =>
      rw [Option.map_some, Option.bind_some, Option.bind_some, hmove, ← ih hplace w]
      rfl

/-- **On the way to a place under a sensitive key something is hidden:** the value under that
key, or under an earlier one. -/
theorem exists_hidden (hv : (at? v place).isSome = true)
    (hplace : ∃ move ∈ place, move.isSensitive = true) :
    ∃ front name, front ++ [.key name] <+: place ∧
      at? (redactValue v) (front ++ [.key name]) = some hidden := by
  induction place generalizing v with
  | nil =>
    obtain ⟨move, hmem, -⟩ := hplace
    cases hmem
  | cons move place ih =>
    rw [at?] at hv
    obtain ⟨w, hw⟩ := Option.isSome_iff_exists.1 (Option.isSome_of_isSome_bind hv)
    rw [hw, Option.bind_some] at hv
    have hitem := item?_redactValue v move
    rw [hw, Option.map_some] at hitem
    cases hmove : move.isSensitive with
    | true =>
      cases move with
      | index i => cases hmove
      | key name =>
        refine ⟨[], name, ⟨place, rfl⟩, ?_⟩
        rw [List.nil_append, at?, hitem, hmove]
        rfl
    | false =>
      obtain ⟨other, hmem, hother⟩ := hplace
      rcases List.mem_cons.1 hmem with rfl | hmem
      · rw [hmove] at hother
        cases hother
      · obtain ⟨front, name, hfront, hhidden⟩ := ih hv ⟨other, hmem, hother⟩
        refine ⟨move :: front, name, List.cons_prefix_cons.2 ⟨rfl, hfront⟩, ?_⟩
        rw [List.cons_append, at?, hitem, hmove, Option.bind_some]
        exact hhidden

/-! ### Values that agree -/

mutual

/-- **Values that agree outside of what is sensitive are redacted to the same value.** -/
theorem Agree.redactValue_eq {v w : Value} : Agree v w → redactValue v = redactValue w
  | .null => rfl
  | .bool _ => rfl
  | .num _ => rfl
  | .str _ => rfl
  | .arr h => congrArg Value.arr h.redactItems_eq
  | .obj h => congrArg Value.obj h.redactFields_eq

theorem AgreeItems.redactItems_eq {items others : List Value} :
    AgreeItems items others → redactItems items = redactItems others
  | .nil => rfl
  | .cons h hrest => by rw [redactItems, redactItems, h.redactValue_eq, hrest.redactItems_eq]

theorem AgreeFields.redactFields_eq {fields others : Fields} :
    AgreeFields fields others → redactFields fields = redactFields others
  | .nil => rfl
  | .shown h hrest => by
    rw [redactFields, redactFields, h.redactValue_eq, hrest.redactFields_eq]
  | .hidden h hrest => by
    rw [redactFields, redactFields, if_pos h, if_pos h, hrest.redactFields_eq]

end

/-- **Nothing under a sensitive key reaches a log, and the form of all else does.**  Values that
agree outside of what is sensitive are redacted to the same value; and in every place that is
not under a sensitive key there stands after redaction what stood there before, but for the text
of strings: an object with the same keys, an array of the same length, or the same number,
boolean or null. -/
theorem redactValue_of_agree (v : Value) :
    (∀ w, Agree v w → redactValue v = redactValue w) ∧
    ∀ place, (∀ move ∈ place, move.isSensitive = false) →
      (at? (redactValue v) place).map surface = (at? v place).map surface := by
  constructor
  · intro w h
    exact h.redactValue_eq
  · intro place hplace
    rw [at?_redactValue hplace, Option.map_map]
    congr 1
    funext w
    exact surface_redactValue w

/-- A customer in a list, with a credential of any form. -/
def customerWith (credential : Value) : Value :=
  .arr [.obj [("apiKey", credential), ("orders", .arr [.num (.int 3), .null])]]

/-- Two credentials of different forms cannot be told apart, and the orders are kept. -/
theorem redactValue_of_agree_customer :
    Agree (customerWith (.str "k")) (customerWith (.obj [("id", .num (.int 7))])) ∧
    redactValue (customerWith (.str "k")) =
      redactValue (customerWith (.obj [("id", .num (.int 7))])) ∧
    (at? (redactValue (customerWith (.str "k"))) [.index 0, .key "orders", .index 0]).map surface =
      some (.num (.int 3)) := by
  have hkey : isSensitiveKey "apiKey" = true := by decide +kernel
  have hagree : Agree (customerWith (.str "k")) (customerWith (.obj [("id", .num (.int 7))])) :=
    .arr (.cons (.obj (.hidden hkey (.shown (.arr (.cons (.num _) (.cons .null .nil))) .nil))) .nil)
  refine ⟨hagree, (redactValue_of_agree _).1 _ hagree, ?_⟩
  rw [(redactValue_of_agree _).2 _ (by decide +kernel)]
  decide

/-! ### Labels in keys -/

/-- **A key holds a label,** in any case of its ASCII letters.  Labels are what secrets in texts
are told by; keys are looked through for a list of words of its own. -/
def HoldsLabel (key : String) (label : List Char) : Prop :=
  ∃ spelled, spelled <:+: key.toList ∧ spelled.map Char.toLower = label

/-- Labels are ASCII texts. -/
theorem lt_of_mem_secretLabels {c : Char} (hlabel : label ∈ secretLabels) (hc : c ∈ label) :
    c.toNat < 128 := by
  have hall : secretLabels.flatten.all (·.toNat < 128) = true := by decide
  exact of_decide_eq_true (List.all_eq_true.1 hall c (List.mem_flatten_of_mem hlabel hc))

/-- All labels but one are words of sensitive keys. -/
theorem mem_sensitiveWords (hlabel : label ∈ secretLabels) (hne : label ≠ "api-key".toList) :
    label ∈ sensitiveWords := by
  have hall : ∀ label ∈ secretLabels, label ≠ "api-key".toList → label ∈ sensitiveWords := by
    decide
  exact hall label hlabel hne

/-- **A key that holds a label is sensitive,** with one exception. -/
theorem isSensitiveKey_of_holdsLabel (hlabel : label ∈ secretLabels)
    (hne : label ≠ "api-key".toList) (h : HoldsLabel key label) : isSensitiveKey key = true := by
  obtain ⟨spelled, hspelled, rfl⟩ := h
  have hascii : ∀ c ∈ spelled, c.toNat < 128 := by
    intro c hc
    exact Text.lt_of_toLower_lt (lt_of_mem_secretLabels hlabel (List.mem_map_of_mem hc))
  rw [isSensitiveKey, List.any_eq_true]
  exact ⟨_, mem_sensitiveWords hlabel hne, Text.contains_iff.2 (Text.infix_lower hascii hspelled)⟩

/-- **The value under a key that holds a label is hidden, or one around it,** in any value and
at any depth, unless the label is `api-key`.

This label is missing among the words that keys are looked through for, although all others are;
what stands under such a key is shown as it is. -/
theorem hidden_of_holdsLabel (hv : (at? v (place ++ [.key key])).isSome = true)
    (hlabel : label ∈ secretLabels) (hne : label ≠ "api-key".toList) (h : HoldsLabel key label) :
    ∃ front name, front ++ [.key name] <+: place ++ [.key key] ∧
      at? (redactValue v) (front ++ [.key name]) = some hidden := by
  refine exists_hidden hv ⟨.key key, ?_, isSensitiveKey_of_holdsLabel hlabel hne h⟩
  exact List.mem_append_right _ (List.mem_singleton_self _)

/-- A header that holds a label in capitals, within an array. -/
theorem hidden_of_holdsLabel_header :
    HoldsLabel "X-TOKEN" "token".toList ∧
    ∃ front name, front ++ [.key name] <+: [.index 0] ++ [.key "X-TOKEN"] ∧
      at? (redactValue (.arr [.obj [("X-TOKEN", .num (.int 1))]])) (front ++ [.key name]) =
        some hidden := by
  have hholds : HoldsLabel "X-TOKEN" "token".toList :=
    ⟨"TOKEN".toList, ⟨"X-".toList, [], by decide⟩, by decide⟩
  exact ⟨hholds, hidden_of_holdsLabel rfl (by decide) (by decide) hholds⟩

/-- A record with a key that holds the label `api-key`. -/
def withApiKey : Value :=
  .obj [("api-key", .str "k3y-9f8e")]

/-- **The value under a key may be shown although the key holds a label:** `api-key` is no word
of a sensitive key. -/
theorem exists_holdsLabel_not_hidden :
    ∃ v place key label, (at? v (place ++ [.key key])).isSome = true ∧ label ∈ secretLabels ∧
      HoldsLabel key label ∧
      ∀ front name, front ++ [.key name] <+: place ++ [.key key] →
        at? (redactValue v) (front ++ [.key name]) ≠ some hidden := by
  refine ⟨withApiKey, [], "api-key", "api-key".toList, rfl, by decide,
    ⟨"api-key".toList, List.infix_refl _, by decide⟩, ?_⟩
  intro front name hfront
  obtain ⟨rest, hrest⟩ := hfront
  -- there is one move on the way, so nothing is in front of it
  cases front with
  | cons move front => simp at hrest
  | nil =>
    obtain ⟨rfl, -⟩ : name = "api-key" ∧ rest = [] := by simpa using hrest
    have hkey : isSensitiveKey "api-key" = false := by decide +kernel
    have hshown : redactText "k3y-9f8e".toList ≠ "***".toList := by decide +kernel
    rw [List.nil_append, at?_redactValue (by simpa [Move.isSensitive] using hkey)]
    intro hhidden
    exact hshown (String.ofList_injective (Value.str.inj (Option.some.inj hhidden)))

end RecordFlow.Log
