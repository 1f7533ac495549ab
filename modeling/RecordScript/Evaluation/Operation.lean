import RecordScript.Decimal.Division
import RecordScript.Program.Config
import RecordScript.Text.Search
import RecordScript.Unicode.Lowercase
import RecordScript.Value.Operand

/-!
# Operations

What operators do with their operands. An operator decides which type it needs, and a field that was
read is cast to it. Two fields are compared as texts.
-/

namespace RecordScript

variable [RegexEngine]

namespace UnaryOp

/-- The operator applied to an operand. -/
def apply : UnaryOp → Operand → Except Fault Value
  | plus, operand => operand.toNumber.map .number
  | minus, operand => operand.toNumber.map fun n => .number n.neg
  | not, operand => operand.toBoolean.map fun b => .boolean !b

end UnaryOp

namespace BinaryOp

/-- An operation that is not defined where its second number is zero. -/
def byNonzero (f : Decimal → Decimal → Decimal) (a b : Decimal) : Except Fault Decimal :=
  if b.isZero then .error .divisionByZero else .ok (f a b)

/-- What the operator computes from two numbers, or `none` for the joining of texts. -/
def arithmetic? : BinaryOp → Option (Decimal → Decimal → Except Fault Decimal)
  | add => some fun a b => .ok (a.add b)
  | sub => some fun a b => .ok (a.sub b)
  | mul => some fun a b => .ok (a.mul b)
  | div => some (byNonzero Decimal.div)
  | rem => some (byNonzero Decimal.rem)
  | concat => none

/-- The operator applied to two operands. -/
def apply (op : BinaryOp) (left right : Operand) : Except Fault Value :=
  match op.arithmetic? with
  | some compute => do
    let left ← left.toNumber
    let right ← right.toNumber
    return .number (← compute left right)
  | none => do
    let left ← left.toText
    let right ← right.toText
    return .string (left ++ right)

end BinaryOp

namespace CompareOp

/-- The type that two operands are compared as: that of a value, or a text for two fields. -/
def commonType (op : CompareOp) (left right : Operand) : Except Fault ValueType :=
  match left.strongType, right.strongType with
  | none, none => .ok .string
  | some t, none | none, some t => .ok t
  | some s, some t => if s = t then .ok s else .error (.type (.notComparable s op t))

/-- Whether the operator only asks if two things are equal. -/
def isEquality : CompareOp → Bool
  | eq | ne => true
  | _ => false

/-- The order of two values of one type, as far as the operator can be used on them. -/
def order? (op : CompareOp) : Value → Value → Option Ordering
  | .string a, .string b => some (compare a b)
  | .number a, .number b => some (a.compare b)
  | .boolean a, .boolean b => if op.isEquality then some (compare a b) else none
  | _, _ => none

/-- Whether the comparison holds of two operands. -/
def apply (op : CompareOp) (left right : Operand) : Except Fault Bool := do
  let type ← op.commonType left right
  let left ← left.resolve type
  let right ← right.resolve type
  match op.order? left right with
  | some order => return op.holds order
  | none => throw (.type (.notOrdered type op))

end CompareOp

namespace StringMatch

/-- Whether a text is found in a subject. -/
def found : StringMatch → String → String → Bool
  | contains, subject, needle => Text.contains subject needle
  | exact, subject, needle => subject = needle

end StringMatch

namespace Config

/-- Whether a text is found in a subject, in the way that the configuration asks for. -/
def textMatches (config : Config) (subject needle : String) : Bool :=
  if config.caseInsensitive then
    config.stringMatch.found (Unicode.lowercase subject) (Unicode.lowercase needle)
  else config.stringMatch.found subject needle

/-- Whether a pattern, which may be a text, is found in a subject. -/
def isMatch (config : Config) (subject pattern : Operand) : Except Fault Bool := do
  let subject ← subject.toText
  match pattern with
  | .value (.regex p) => return p.isMatch subject
  | pattern => return config.textMatches subject (← pattern.toText)

end Config

end RecordScript
