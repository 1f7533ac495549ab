import RecordScript.Decimal.Notation
import RecordScript.Pattern.Basic

/-!
# Values

The values that expressions compute with. Every value has one fixed type; only values of some types
can be stored in a field of a record.
-/

namespace RecordScript

variable [RegexEngine]

/-- The type of a value. -/
inductive ValueType where
  | none
  | string
  | number
  | boolean
  | regex
deriving DecidableEq, Repr

namespace ValueType

/-- The name of the type in messages. -/
def name : ValueType → String
  | none => "NONE"
  | string => "STRING"
  | number => "NUMBER"
  | boolean => "BOOLEAN"
  | regex => "REGEX"

end ValueType

/-- A value of a program. `none` is what a call gives that is made for its effect alone. -/
inductive Value where
  | none
  | string (s : String)
  | number (n : Decimal)
  | boolean (b : Bool)
  | regex (p : Pattern)
deriving DecidableEq, Repr

namespace Value

/-- The type of a value. -/
def type : Value → ValueType
  | none => .none
  | string _ => .string
  | number _ => .number
  | boolean _ => .boolean
  | regex _ => .regex

/-- The word for a truth value. -/
def truthWord (b : Bool) : String := if b then "true" else "false"

/-- The text that shows a value. -/
def render : Value → String
  | none => "none"
  | string s => s
  | number n => n.format
  | boolean b => truthWord b
  | regex p => "/" ++ p.source ++ "/"

/-- The text that a field holds when the value is stored in it; patterns and `none` cannot be
stored. -/
def fieldText? : Value → Option String
  | string s => some s
  | number n => some n.format
  | boolean b => some (truthWord b)
  | none | regex _ => Option.none

end Value

end RecordScript
