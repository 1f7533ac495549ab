import RecordScript.Calendar.Fields
import RecordScript.Syntax.Operator
import RecordScript.Text.Position
import RecordScript.Text.Quoted
import RecordScript.Value.Basic

/-!
# Faults

What can go wrong while a record is processed. A fault is a cause; its wording is in one place, and
the evaluator adds the position in the program.
-/

namespace RecordScript

variable [RegexEngine]

/-- Why a value of some type does not fit where it stands. -/
inductive TypeFault where
  /-- A field cannot be used as a value of the type. -/
  | fieldUse (field : String) (type : ValueType)
  /-- A pattern stands where no pattern is expected. -/
  | strayPattern (source : String)
  /-- A value has another type than the expected one. -/
  | mismatch (expected : ValueType) (found : Value)
  /-- A value of the type cannot be stored, in the given field if it is an assignment. -/
  | notStorable (field : Option String) (type : ValueType)
  /-- Values of the two types cannot be compared. -/
  | notComparable (left : ValueType) (op : CompareOp) (right : ValueType)
  /-- Values of the type do not support the comparison. -/
  | notOrdered (type : ValueType) (op : CompareOp)
  /-- A function was given another number of arguments than it takes. -/
  | argumentCount (expected found : Nat)
  /-- A value of the type cannot be converted to a number. -/
  | notConvertible (type : ValueType)
  /-- The value `none` cannot be logged. -/
  | notPrintable
deriving DecidableEq, Repr

/-- What went wrong in an evaluation. -/
inductive Fault where
  | type (fault : TypeFault)
  | cast (field : Option String) (text : String) (target : ValueType)
  | divisionByZero
  | date (text format : String) (problem : DateProblem)
  | notInteger (n : Decimal)
  | unknownFunction (name : String)
  /-- A bare pattern has no field to be matched against. -/
  | unboundPattern
deriving DecidableEq, Repr

namespace TypeFault

/-- The wording of a type fault. -/
def message : TypeFault → String
  | fieldUse field type => s!"field `{field}` cannot be used as {type.name}"
  | strayPattern source => s!"regex /{source}/ may only appear as the pattern of `~`"
  | mismatch expected found =>
    s!"expected {expected.name}, found {found.type.name} {Text.quote found.render}"
  | notStorable none type => s!"a {type.name} value cannot be stored in a field"
  | notStorable (some field) type =>
    s!"cannot assign to `{field}`: a {type.name} value cannot be stored in a field"
  | notComparable left op right => s!"cannot compare {left.name} {op.sign} {right.name}"
  | notOrdered type op => s!"{type.name} values do not support `{op.sign}`"
  | argumentCount expected found => s!"expected {expected} argument(s), found {found}"
  | notConvertible type => s!"as_number() cannot convert a {type.name} value"
  | notPrintable => "log() cannot print a NONE value"

end TypeFault

namespace Fault

/-- The wording of a fault. -/
def message : Fault → String
  | type fault => s!"type error: {fault.message}"
  | cast none text target => s!"cannot cast value {Text.quote text} to {target.name}"
  | cast (some field) text target =>
    s!"cannot cast field `{field}` value {Text.quote text} to {target.name}"
  | divisionByZero => "division by zero"
  | date text format problem =>
    s!"cannot read date {Text.quote text} with format {Text.quote format}: {problem.message}"
  | notInteger n => s!"expected an integer, found {n.inMessage}"
  | unknownFunction name => s!"unknown function `{name}`"
  | unboundPattern => "implicit match without a field"

end Fault

/-- A fault at a place of a program. -/
structure EvalError where
  fault : Fault
  position : Position
deriving DecidableEq, Repr

namespace EvalError

/-- The wording of a fault at its place. -/
def message (e : EvalError) : String := s!"{e.fault.message} at {e.position.render}"

end EvalError

end RecordScript
