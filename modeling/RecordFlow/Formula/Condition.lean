import RecordFlow.Formula.Literal

/-!
# Conditions

A condition is a short text about the value of a field, or about the record that the
field is in.

    value <op> literal
    value.includes('x')   value.startsWith('x')   value.endsWith('x')
    value.length <op> 5
    value …
    record.<path> <op> literal

The last form of a condition on the value, and the forms that do not suit the kind of
value at hand, ask whether the value counts as true.  Equality is strict; the ordering
operators hold only between numbers.

## Main definitions

* `Comparison` — the comparison operators, with `Comparison.holds`.
* `Condition` — what a condition asks.
* `Condition.read?` — the condition that a text spells.
* `Condition.decide` — the answer to a condition, or why there is none.
* `conditionHolds` — the same, with false where there is no answer.
-/

namespace RecordFlow.Formula

/-! ### Failures -/

/-- **Why a condition or an expression has no answer.** -/
inductive EvalError where
  /-- The text is not a condition. -/
  | unrecognizedCondition (text : String)
  /-- The condition is about a record, and there is none. -/
  | missingRecord (path : String)
  /-- A number is out of range where it stands. -/
  | invalidNumber (numeral context : String)
deriving DecidableEq

/-- The failure in words. -/
def EvalError.message : EvalError → String
  | unrecognizedCondition text => "Unrecognized condition: " ++ text
  | missingRecord path =>
    "Condition references record." ++ path ++ " but no record was provided"
  | invalidNumber numeral context =>
    "Invalid numeric literal '" ++ numeral ++ "' in " ++ context

/-! ### Comparison operators -/

/-- **The comparison operators.**  The two spellings of equality mean the same, and so
do the two of inequality. -/
inductive Comparison where
  | equal
  | strictEqual
  | notEqual
  | strictNotEqual
  | greater
  | greaterOrEqual
  | less
  | lessOrEqual
deriving DecidableEq

namespace Comparison

/-- The text of an operator. -/
def symbol : Comparison → String
  | equal => "=="
  | strictEqual => "==="
  | notEqual => "!="
  | strictNotEqual => "!=="
  | greater => ">"
  | greaterOrEqual => ">="
  | less => "<"
  | lessOrEqual => "<="

/-- All operators, an operator before its own beginnings: the order in which they are
looked for in a text. -/
def all : List Comparison :=
  [strictEqual, strictNotEqual, equal, notEqual, greaterOrEqual, lessOrEqual, greater, less]

/-- The operator that a text is. -/
def ofSymbol? (s : String) : Option Comparison :=
  all.find? (·.symbol == s)

/-- Whether a relation holds between two values that are both numbers. -/
def orders (relation : Binary64 → Binary64 → Bool) (left right : Value) : Bool :=
  match Value.numbers? left right with
  | some (a, b) => relation a b
  | none => false

/-- **Whether the comparison holds.** -/
def holds (op : Comparison) (left right : Value) : Bool :=
  match op with
  | equal | strictEqual => left.sameAs right
  | notEqual | strictNotEqual => !left.sameAs right
  | greater => orders (fun a b => b.lt a) left right
  | greaterOrEqual => orders (fun a b => b.le a) left right
  | less => orders Binary64.lt left right
  | lessOrEqual => orders Binary64.le left right

end Comparison

/-! ### What a condition asks -/

/-- The tests on a string. -/
inductive StringTest where
  | includes
  | startsWith
  | endsWith
deriving DecidableEq

namespace StringTest

/-- The name of a test. -/
def name : StringTest → String
  | includes => "includes"
  | startsWith => "startsWith"
  | endsWith => "endsWith"

/-- All tests. -/
def all : List StringTest :=
  [includes, startsWith, endsWith]

/-- Whether a text passes the test for a needle. -/
def passes : StringTest → List Char → List Char → Bool
  | includes => Text.contains
  | startsWith => Text.startsWith
  | endsWith => Text.endsWith

end StringTest

/-- **What a condition asks.** -/
inductive Condition where
  /-- A comparison of the value with a literal. -/
  | compare (op : Comparison) (operand : Value)
  /-- A test on a string; of another value, whether it counts as true. -/
  | stringTest (test : StringTest) (needle : List Char)
  /-- A comparison of the length of a string or array with a number in digits; of
  another value, whether it counts as true. -/
  | lengthTest (op : Comparison) (digits : List Char)
  /-- Whether the value counts as true. -/
  | truth
  /-- A comparison of what stands at a path of the record with a literal. -/
  | compareRecord (path : String) (op : Comparison) (operand : Value)

/-! ### Reading a condition -/

/-- Whether the text is one line of at least one character. -/
def isLine (s : List Char) : Bool :=
  !s.isEmpty && s.all (· != '\n')

/-- An operator after optional white space, and an operand after more of it.  The first
operator in the order of `Comparison.all` that leaves an acceptable operand is taken. -/
def readComparison? (accept : List Char → Bool) (s : List Char) :
    Option (Comparison × List Char) :=
  Comparison.all.findSome? fun op =>
    (Text.dropPrefix? op.symbol.toList (Text.trimStart s)).bind fun rest =>
      let operand := Text.trimStart rest
      if accept operand then some (op, operand) else none

/-- **A quoted argument,** up to the closing parenthesis that ends the text: what
stands between the first quote and the last one. -/
def quotedArgument? (s : List Char) : Option (List Char) :=
  if s.getLast? = some ')' then
    match Text.trim s.dropLast with
    | [] => none
    | c :: rest =>
      match rest.getLast? with
      | none => none
      | some d =>
        if isQuote c && isQuote d && rest.dropLast.all (· != '\n') then some rest.dropLast
        else none
  else none

/-- A string test: its name, a parenthesis and a quoted needle. -/
def readStringTest? (s : List Char) : Option (StringTest × List Char) :=
  StringTest.all.findSome? fun test =>
    (Text.dropPrefix? (test.name ++ "(").toList s).bind fun rest =>
      (quotedArgument? rest).map (test, ·)

/-- Whether a text is a nonempty row of decimal digits of any script. -/
def isDigitRow (s : List Char) : Bool :=
  !s.isEmpty && s.all Text.isDecimalDigit

/-- Whether the character may stand in a path of a condition or an expression. -/
def isPathChar (c : Char) : Bool :=
  Text.isWord c || c == '.'

/-- A condition on the value, from what follows the word for it. -/
def readOnValue? (s : List Char) : Option Condition :=
  match readComparison? isLine s with
  | some (op, operand) => some (.compare op (literal operand))
  | none =>
    match (Text.dropPrefix? ['.'] s).bind readStringTest? with
    | some (test, needle) => some (.stringTest test needle)
    | none =>
      match (Text.dropPrefix? ".length".toList s).bind (readComparison? isDigitRow) with
      | some (op, digits) => some (.lengthTest op digits)
      | none => if (s.head?.map Text.isWord).getD false then none else some .truth

/-- A condition on the record, from what follows the word and the point. -/
def readOnRecord? (s : List Char) : Option Condition :=
  match s.takeWhile isPathChar with
  | [] => none
  | path =>
    (readComparison? isLine (s.dropWhile isPathChar)).map fun (op, operand) =>
      .compareRecord (String.ofList path) op (literal operand)

/-- **The condition that a text spells,** white space around it aside. -/
def Condition.read? (s : List Char) : Option Condition :=
  let t := Text.trim s
  match Text.dropPrefix? "value".toList t with
  | some rest => readOnValue? rest
  | none => (Text.dropPrefix? "record.".toList t).bind readOnRecord?

/-! ### Answering a condition -/

/-- The length of a string in characters or of an array in items. -/
def lengthOf? : Value → Option Nat
  | .str s => some s.length
  | .arr items => some items.length
  | _ => none

/-- **The answer to a condition** about a value and, perhaps, a record. -/
def Condition.decide (value : Value) (record : Option Value) :
    Condition → Except EvalError Bool
  | compare op operand => .ok (op.holds value operand)
  | stringTest test needle =>
    match value with
    | .str s => .ok (test.passes s.toList needle)
    | v => .ok v.isTruthy
  | lengthTest op digits =>
    match lengthOf? value with
    | none => .ok value.isTruthy
    | some n =>
      match (readNat? digits).filter (· < 2 ^ 64) with
      | some expected => .ok (op.holds (.int n) (.int expected))
      | none => .error (.invalidNumber (String.ofList digits) "length comparison")
  | truth => .ok value.isTruthy
  | compareRecord path op operand =>
    match record with
    | none => .error (.missingRecord path)
    | some r => .ok (op.holds (r.resolve path) operand)

/-- **The answer to the condition that a text spells,** or why there is none. -/
def decideCondition (condition : List Char) (value : Value) (record : Option Value) :
    Except EvalError Bool :=
  match Condition.read? condition with
  | some c => c.decide value record
  | none => .error (.unrecognizedCondition (String.ofList (Text.trim condition)))

/-- **Whether a condition holds;** one without an answer does not. -/
def conditionHolds (condition : List Char) (value : Value) (record : Option Value) : Bool :=
  match decideCondition condition value record with
  | .ok answer => answer
  | .error _ => false

end RecordFlow.Formula
