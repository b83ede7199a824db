import RecordFlow.Formula.Condition
import RecordFlow.Formula.Template

/-!
# Expressions

An expression is a short text that computes a value from the value of a field and,
perhaps, the record that the field is in.  The first form that fits is taken:

* `value`;
* `record.<path>`, when there is a record;
* a method of a string, a method of an array, or arithmetic on a number, each only on
  a value of its kind;
* a ternary `<condition> ? <literal> : <literal>`;
* a template, when there is a record.

A text of none of these forms leaves the value as it is.

## Main definitions

* `StringMethod`, `ArrayMethod`, `Arithmetic`, `Ternary` — the forms, each with a
  reader `read?`.
* `computeExpression` — the value of an expression, or why there is none.
* `expressionValue` — the same, with the value at hand where there is none.
-/

namespace RecordFlow.Formula

/-! ### Methods of strings -/

/-- **The methods of a string.**  Indices are kept as they are written. -/
inductive StringMethod where
  | toUpperCase
  | toLowerCase
  | trim
  | length
  | substring (first : List Char) (last : Option (List Char))
  | split (separator : List Char)

/-- A run of decimal digits of any script with an optional minus sign, and the rest. -/
def scanIndex? (s : List Char) : Option (List Char × List Char) :=
  let unsigned := dropMinus s
  let digits := unsigned.takeWhile Text.isDecimalDigit
  if digits.isEmpty then none
  else
    some (s.take (s.length - unsigned.length) ++ digits,
      unsigned.dropWhile Text.isDecimalDigit)

/-- The arguments of `substring`, from what follows the opening parenthesis. -/
def substringArguments? (s : List Char) : Option StringMethod :=
  (scanIndex? (Text.trimStart s)).bind fun (first, rest) =>
    match Text.trimStart rest with
    | [')'] => some (.substring first none)
    | ',' :: rest =>
      (scanIndex? (Text.trimStart rest)).bind fun (last, rest) =>
        if Text.trimStart rest = [')'] then some (.substring first (some last)) else none
    | _ => none

/-- The method of a string that an expression names. -/
def StringMethod.read? (s : List Char) : Option StringMethod :=
  if s = "value.toUpperCase()".toList then some .toUpperCase
  else if s = "value.toLowerCase()".toList then some .toLowerCase
  else if s = "value.trim()".toList then some .trim
  else if s = "value.length".toList then some .length
  else
    match Text.dropPrefix? "value.substring(".toList s with
    | some rest => substringArguments? rest
    | none =>
      ((Text.dropPrefix? "value.split(".toList s).bind quotedArgument?).map .split

/-- The integer that an index spells, within sixty-four bits. -/
def readIndex (s : List Char) : Except EvalError Int :=
  match (readInt? s).filter fun n => -2 ^ 63 ≤ n && n < 2 ^ 63 with
  | some n => .ok n
  | none => .error (.invalidNumber (String.ofList s) "substring")

/-- **The characters between two indices,** in either order, each index taken to the
nearest one that the text has. -/
def substring (s : List Char) (first last : Int) : List Char :=
  let clamp (n : Int) : Nat := min n.toNat s.length
  let lower := min (clamp first) (clamp last)
  let upper := max (clamp first) (clamp last)
  (s.drop lower).take (upper - lower)

/-- The parts of a text at a separator; an empty separator gives the characters. -/
def pieces (separator s : List Char) : List Value :=
  if separator.isEmpty then s.map fun c => .text [c]
  else (Text.splitOn separator s).map .text

/-- The result of a method on a string. -/
def StringMethod.apply (s : List Char) : StringMethod → Except EvalError Value
  | toUpperCase => .ok (.text (Text.upper s))
  | toLowerCase => .ok (.text (Text.lower s))
  | trim => .ok (.text (Text.trim s))
  | length => .ok (.int s.length)
  | substring first last => do
    let from' ← readIndex first
    let to' ← (match last with
      | some index => readIndex index
      | none => .ok s.length)
    return .text (Formula.substring s from' to')
  | split separator => .ok (.arr (pieces separator s))

/-! ### Methods of arrays -/

/-- **The methods of an array.** -/
inductive ArrayMethod where
  | length
  | index (digits : List Char)
  | join (separator : List Char)

/-- The method of an array that an expression names. -/
def ArrayMethod.read? (s : List Char) : Option ArrayMethod :=
  if s = "value.length".toList then some .length
  else
    match Text.dropPrefix? "value[".toList s with
    | some rest =>
      if rest.getLast? = some ']' ∧ isDigitRow rest.dropLast then some (.index rest.dropLast)
      else none
    | none =>
      ((Text.dropPrefix? "value.join(".toList s).bind quotedArgument?).map .join

/-- The result of a method on an array; an index that is out of range gives null. -/
def ArrayMethod.apply (items : List Value) : ArrayMethod → Value
  | length => .int items.length
  | index digits => ((readNat? digits).bind fun i => items[i]?).getD .null
  | join separator => .text (Text.joinWith separator (items.map Value.display))

/-! ### Arithmetic -/

/-- The four operations. -/
inductive ArithmeticOp where
  | plus
  | minus
  | times
  | divide
deriving DecidableEq

/-- The operation that a character stands for. -/
def ArithmeticOp.ofChar? : Char → Option ArithmeticOp
  | '+' => some plus
  | '-' => some minus
  | '*' => some times
  | '/' => some divide
  | _ => none

/-- **The result of an operation.**  There is none for a division by zero, nor for a
result that is not finite. -/
def ArithmeticOp.apply (op : ArithmeticOp) (left right : Binary64) : Value :=
  match op with
  | plus => .ofBinary64 (left.add right)
  | minus => .ofBinary64 (left.sub right)
  | times => .ofBinary64 (left.mul right)
  | divide => if right.isZero then .null else .ofBinary64 (left.div right)

/-- **Arithmetic on the value,** with a plain numeral in digits of any script. -/
structure Arithmetic where
  /-- The operation. -/
  op : ArithmeticOp
  /-- The right operand as it is written. -/
  operand : List Char

/-- The arithmetic that an expression spells. -/
def Arithmetic.read? (s : List Char) : Option Arithmetic :=
  (Text.dropPrefix? "value".toList s).bind fun rest =>
    match Text.trimStart rest with
    | [] => none
    | c :: rest =>
      (ArithmeticOp.ofChar? c).bind fun op =>
        let operand := Text.trimStart rest
        if isPlainNumeral Text.isDecimalDigit operand then some ⟨op, operand⟩ else none

/-- The result of arithmetic on a number. -/
def Arithmetic.apply (a : Arithmetic) (left : Binary64) : Except EvalError Value :=
  match readNumber? a.operand with
  | some right => .ok (a.op.apply left right)
  | none => .error (.invalidNumber (String.ofList a.operand) "arithmetic")

/-! ### Ternaries -/

/-- **A choice between two literals.** -/
structure Ternary where
  /-- The condition. -/
  condition : List Char
  /-- The literal for a condition that holds. -/
  thenBranch : List Char
  /-- The literal for a condition that does not hold. -/
  elseBranch : List Char

/-- The text before the first `mark` outside quotes, and the text after it; `quote` is
the quote that is open at the start. -/
def cutOutsideQuotes? (mark : Char) :
    Option Char → List Char → Option (List Char × List Char)
  | _, [] => none
  | some quote, c :: s =>
    (cutOutsideQuotes? mark (if c = quote then none else some quote) s).map
      fun (before, after) => (c :: before, after)
  | none, c :: s =>
    if c = mark then some ([], s)
    else
      (cutOutsideQuotes? mark (if isQuote c then some c else none) s).map
        fun (before, after) => (c :: before, after)

/-- **The ternary that an expression spells:** the first question mark and the first
colon after it, both outside quotes, with something in each of the three places. -/
def Ternary.read? (s : List Char) : Option Ternary :=
  (cutOutsideQuotes? '?' none s).bind fun (condition, rest) =>
    (cutOutsideQuotes? ':' none rest).bind fun (thenBranch, elseBranch) =>
      let t : Ternary :=
        ⟨Text.trim condition, Text.trim thenBranch, Text.trim elseBranch⟩
      if t.condition.isEmpty || t.thenBranch.isEmpty || t.elseBranch.isEmpty then none
      else some t

/-- The literal that the condition chooses. -/
def Ternary.choose (t : Ternary) (value : Value) (record : Option Value) : Value :=
  literal (if conditionHolds t.condition value record then t.thenBranch else t.elseBranch)

/-! ### Expressions -/

/-- The path of the record that an expression names. -/
def readRecordPath? (s : List Char) : Option String :=
  (Text.dropPrefix? "record.".toList s).bind fun path =>
    if !path.isEmpty && path.all isPathChar then some (String.ofList path) else none

/-- The result of the form that belongs to the kind of the value, if the expression
has that form. -/
def computeByKind (expression : List Char) : Value → Except EvalError (Option Value)
  | .str s =>
    match StringMethod.read? expression with
    | some m => (m.apply s.toList).map some
    | none => .ok none
  | .arr items => .ok ((ArrayMethod.read? expression).map (·.apply items))
  | .num n =>
    match Arithmetic.read? expression with
    | some a => (a.apply n.toBinary64).map some
    | none => .ok none
  | _ => .ok none

/-- The value of an expression that has no form of the value's own kind: a ternary, a
template, or else the value itself. -/
def computeGeneral (expression : List Char) (value : Value) (record : Option Value) :
    Value :=
  match Ternary.read? expression with
  | some t => t.choose value record
  | none =>
    match record with
    | some r =>
      if Text.contains expression ['$', '{'] then .text (interpolate expression r value)
      else value
    | none => value

/-- **The value of an expression,** or why there is none. -/
def computeExpression (expression : List Char) (value : Value) (record : Option Value) :
    Except EvalError Value :=
  let e := Text.trim expression
  if e = "value".toList then .ok value
  else
    match record.bind fun r => (readRecordPath? e).map r.resolve with
    | some found => .ok found
    | none =>
      (computeByKind e value).map fun
        | some result => result
        | none => computeGeneral e value record

/-- **The value of an expression;** one that cannot be computed leaves the value as it
is. -/
def expressionValue (expression : List Char) (value : Value) (record : Option Value) :
    Value :=
  match computeExpression expression value record with
  | .ok result => result
  | .error _ => value

end RecordFlow.Formula
