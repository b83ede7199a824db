/-!
# White space

The characters with the standard's property `White_Space`, and the three ways of
cutting them off a text.  Texts are lists of characters throughout the library;
the strings of the outer interfaces are converted at the edge.

## Main definitions

* `isBlank` — the twenty-five white-space characters.
* `trimStart`, `trimEnd`, `trim` — a text without its outer white space.
-/

namespace RecordFlow.Text

/-- **White space.**  The byte order mark and the zero-width space are not in it;
the next-line and no-break-space characters are. -/
def isBlank (c : Char) : Bool :=
  let n := c.toNat
  (0x9 ≤ n && n ≤ 0xD) || n == 0x20 || n == 0x85 || n == 0xA0 || n == 0x1680 ||
    (0x2000 ≤ n && n ≤ 0x200A) || n == 0x2028 || n == 0x2029 || n == 0x202F ||
    n == 0x205F || n == 0x3000

/-- The text from its first character that is not white space. -/
def trimStart (s : List Char) : List Char :=
  s.dropWhile isBlank

/-- The text up to its last character that is not white space. -/
def trimEnd (s : List Char) : List Char :=
  (s.reverse.dropWhile isBlank).reverse

/-- The text without the white space around it. -/
def trim (s : List Char) : List Char :=
  trimEnd (trimStart s)

/-- Whether the text holds nothing but white space. -/
def allBlank (s : List Char) : Bool :=
  s.all isBlank

end RecordFlow.Text
