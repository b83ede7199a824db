import RecordFlow.Regex.CharSet
import RecordFlow.Text.Blank
import RecordFlow.Text.Category
import RecordFlow.Text.Property
import RecordFlow.Text.Script

/-!
# Character classes by name

The classes that a regular expression names: properties, general categories and
scripts of the standard, the short classes `\d`, `\s` and `\w`, and the classes of ASCII
in brackets and colons.

## Main definitions

* `propertySet?` — the class of a property, category or script.
* `digitSet`, `spaceSet`, `wordSet` — the short classes.
* `asciiClass?` — a named class of ASCII.
-/

namespace RecordFlow.Regex

/-- **A name in the form in which names are compared:** in lower case, without blanks,
dashes, underscores, characters beyond ASCII and a leading `is`. -/
def looseName (name : List Char) : String :=
  let kept := name.filter fun c =>
    c.toNat < 128 && !(Text.isBlank c || c == '_' || c == '-')
  let lowered := kept.map fun c =>
    if 65 ≤ c.toNat ∧ c.toNat ≤ 90 then Char.ofNat (c.toNat + 32) else c
  String.ofList <|
    match lowered with
    | 'i' :: 's' :: rest => if rest.isEmpty ∨ rest = ['c'] then lowered else rest
    | s => s

/-- The listing of a name in a table. -/
def listed? (table : List (List String × String)) (name : String) : Option CharSet :=
  (table.find? (·.1.contains name)).map fun entry => .ofListing entry.2

/-- The class of a general category, or of a group of them. -/
def categorySet? (name : String) : Option CharSet :=
  if name = "any" then some (.range 0 CharSet.lastCode)
  else if name = "ascii" then some (.range 0 127)
  else if name = "assigned" then
    (listed? Text.generalCategories "cn").map (CharSet.complement CharSet.lastCode)
  else
    match listed? Text.generalCategories name with
    | some s => some s
    | none =>
      (Text.categoryGroups.find? (·.1.contains name)).map fun group =>
        (group.2.filterMap (listed? Text.generalCategories)).foldl CharSet.union .empty

/-- The class of a script. -/
def scriptSet? (name : String) : Option CharSet :=
  listed? Text.scripts name

/-- **The class that a single name stands for.**  The names of two categories and a group
win over properties with the same short name. -/
def propertySet? (name : List Char) : Option CharSet :=
  let loose := looseName name
  let property :=
    if loose = "cf" ∨ loose = "sc" ∨ loose = "lc" then none
    else listed? Text.binaryProperties loose
  property.or ((categorySet? loose).or (scriptSet? loose))

/-- The class of a property with a value. -/
def valueSet? (property value : List Char) : Option CharSet :=
  let name := looseName property
  let loose := looseName value
  if name = "gc" ∨ name = "generalcategory" then categorySet? loose
  else if name = "sc" ∨ name = "script" ∨ name = "scx" ∨ name = "scriptextensions" then
    scriptSet? loose
  else none

/-- Decimal digits; those of ASCII alone where `unicode` is not set. -/
def digitSet (unicode : Bool) : CharSet :=
  if unicode then
    .union (asciiSet [('0', '9')]) ⟨Text.decimalDigitRanges.bounds.toList⟩
  else asciiSet [('0', '9')]

/-- White space. -/
def spaceSet (unicode : Bool) : CharSet :=
  if unicode then
    .ofListing "9-D 20 85 A0 1680 2000-200A 2028-2029 202F 205F 3000"
  else .ofListing "9-D 20"

/-- Word characters. -/
def wordSet (unicode : Bool) : CharSet :=
  let ascii := asciiSet [('0', '9'), ('A', 'Z'), ('_', '_'), ('a', 'z')]
  if unicode then .union ascii ⟨Text.wordRanges.bounds.toList⟩ else ascii

/-- The named classes of ASCII. -/
def asciiClasses : List (String × List (Char × Char)) :=
  [("alnum", [('0', '9'), ('A', 'Z'), ('a', 'z')]),
    ("alpha", [('A', 'Z'), ('a', 'z')]),
    ("ascii", [('\x00', '\x7f')]),
    ("blank", [('\t', '\t'), (' ', ' ')]),
    ("cntrl", [('\x00', '\x1f'), ('\x7f', '\x7f')]),
    ("digit", [('0', '9')]),
    ("graph", [('!', '~')]),
    ("lower", [('a', 'z')]),
    ("print", [(' ', '~')]),
    ("punct", [('!', '/'), (':', '@'), ('[', '\x60'), ('\x7b', '~')]),
    ("space", [('\t', '\r'), (' ', ' ')]),
    ("upper", [('A', 'Z')]),
    ("word", [('0', '9'), ('A', 'Z'), ('_', '_'), ('a', 'z')]),
    ("xdigit", [('0', '9'), ('A', 'F'), ('a', 'f')])]

/-- A named class of ASCII. -/
def asciiClass? (name : List Char) : Option CharSet :=
  (asciiClasses.lookup (String.ofList name)).map asciiSet

end RecordFlow.Regex
