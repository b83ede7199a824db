/-!
# What data is for

A text in a language of data is read for a purpose: a definition of a pipeline has fields of
known names, and some of these are texts.  The shape of what is wanted has a say in how a text
is read.

* A record is read field by field.  A known field may stand there once only, and a field of
  another name is passed over without being understood.  Data of no known shape keeps all its
  fields, and of two with one name the later.
* Where a text is wanted, a word without quotes is a text, whatever it means elsewhere.

## Main definitions

* `Shape` — what is wanted.
* `Shape.ofItem` — what is wanted of an item.
-/

namespace RecordFlow

/-- **What a piece of data is for.** -/
inductive Shape where
  /-- Any data. -/
  | data
  /-- A text. -/
  | text
  /-- A text or nothing. -/
  | optionalText
  /-- One of a few names. -/
  | choice
  /-- A list. -/
  | list (item : Shape)
  /-- A record, with the names that are known, in order. -/
  | record (fields : List (String × Shape))

namespace Shape

/-- What an item of a list is for. -/
def ofItem : Shape → Shape
  | list item => item
  | _ => data

end Shape

end RecordFlow
