import RecordScript.Value.Fault

/-!
# Operands

The result of an expression before its consumer has said which type it needs. A field that was read
keeps its type open and is read as a number or as a text on demand; a value has the type it has, and
nothing else is converted.
-/

namespace RecordScript

variable [RegexEngine]

/-- What an expression evaluates to: a field that was read, or a value. -/
inductive Operand where
  | field (name text : String)
  | value (v : Value)
deriving DecidableEq, Repr

namespace Operand

/-- The type that the operand has by itself; a field has none. -/
def strongType : Operand → Option ValueType
  | field _ _ => none
  | value v => some v.type

/-- The fault of using a value where the type `expected` is needed. -/
def mismatch (expected : ValueType) : Value → Fault
  | .regex p => .type (.strayPattern p.source)
  | v => .type (.mismatch expected v)

/-- The operand as a value of the given type. -/
def resolve : Operand → ValueType → Except Fault Value
  | field _ text, .string => .ok (.string text)
  | field name text, .number =>
    match Decimal.parse text with
    | some n => .ok (.number n)
    | none => .error (.cast (some name) text .number)
  | field name _, expected => .error (.type (.fieldUse name expected))
  | value v, expected => if v.type = expected then .ok v else .error (mismatch expected v)

/-- The operand as a text. -/
def toText : Operand → Except Fault String
  | field _ text => .ok text
  | value (.string s) => .ok s
  | value v => .error (mismatch .string v)

/-- The operand as a number. -/
def toNumber : Operand → Except Fault Decimal
  | field name text =>
    match Decimal.parse text with
    | some n => .ok n
    | none => .error (.cast (some name) text .number)
  | value (.number n) => .ok n
  | value v => .error (mismatch .number v)

/-- The operand as a truth value. -/
def toBoolean : Operand → Except Fault Bool
  | field name _ => .error (.type (.fieldUse name .boolean))
  | value (.boolean b) => .ok b
  | value v => .error (mismatch .boolean v)

/-- The operand as a value; a field becomes the text it holds. -/
def toValue : Operand → Value
  | field _ text => .string text
  | value v => v

/-- The text that shows the operand. -/
def render : Operand → String
  | field _ text => text
  | value v => v.render

/-- The text that a field holds when the operand is assigned to it. -/
def fieldText (target : Option String) : Operand → Except Fault String
  | field _ text => .ok text
  | value v =>
    match v.fieldText? with
    | some text => .ok text
    | none => .error (.type (.notStorable target v.type))

/-- Whether two operands are equal, numbers by their values and patterns by their texts. -/
def same : Operand → Operand → Bool
  | field a s, field b t => a = b && s = t
  | value (.number a), value (.number b) => a.compare b == .eq
  | value (.regex p), value (.regex q) => p.source = q.source
  | value a, value b => a = b
  | _, _ => false

end Operand

end RecordScript
