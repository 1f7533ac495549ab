import RecordScript.Value.Operand

/-!
# Builtin functions

The functions that programs can call, with the arguments they take. An argument for a parameter with
a type is cast to it, exactly as an operator casts its operands.
-/

namespace RecordScript

/-- What a parameter accepts. -/
inductive ParamType where
  | string
  | number
  | any
deriving DecidableEq, Repr

namespace ParamType

/-- The name of the kind of parameter. -/
def name : ParamType → String
  | string => "String"
  | number => "Number"
  | any => "Any"

/-- The operand as the parameter takes it. -/
def accept [RegexEngine] : ParamType → Operand → Except Fault Operand
  | string, operand => (operand.resolve .string).map .value
  | number, operand => (operand.resolve .number).map .value
  | any, operand => .ok operand

end ParamType

/-- How many arguments a function takes. -/
inductive Arity where
  | exactly (count : Nat)
  | atLeast (count : Nat)
deriving DecidableEq, Repr

namespace Arity

/-- Whether a number of arguments is right. -/
def accepts : Arity → Nat → Bool
  | exactly n, count => count = n
  | atLeast n, count => n ≤ count

/-- The arity as messages show it. -/
def render : Arity → String
  | exactly n => s!"{n}"
  | atLeast n => s!"at least {n}"

end Arity

/-- A function that programs can call. -/
inductive Builtin where
  /-- Reads a number in which commas separate thousands. -/
  | asNumber
  /-- Logs its arguments. -/
  | log
  /-- Reads a date in a given format. -/
  | readDate
  /-- Shows the whole record. -/
  | recordText
  /-- Takes a part of a text. -/
  | substring
  /-- Names the encoding of the input. -/
  | inputProtocol
  /-- Names the encoding of the output. -/
  | outputProtocol
deriving DecidableEq, Repr

namespace Builtin

/-- All functions. -/
def all : List Builtin :=
  [asNumber, log, readDate, recordText, substring, inputProtocol, outputProtocol]

/-- The name of the function in programs. -/
def name : Builtin → String
  | asNumber => "as_number"
  | log => "log"
  | readDate => "read_date"
  | recordText => "record_str"
  | substring => "substring"
  | inputProtocol => "input_protocol"
  | outputProtocol => "output_protocol"

/-- The function of the given name. -/
def ofName? (name : String) : Option Builtin := all.find? (·.name = name)

/-- The parameters that always have an argument. -/
def params : Builtin → List ParamType
  | asNumber => [.any]
  | log => [.any]
  | readDate => [.string, .string]
  | recordText => []
  | substring => [.string, .number, .number]
  | inputProtocol => []
  | outputProtocol => []

/-- What arguments beyond the parameters are taken as, if the function allows them. -/
def rest : Builtin → Option ParamType
  | log => some .any
  | _ => none

/-- How many arguments the function takes. -/
def arity (f : Builtin) : Arity :=
  match f.rest with
  | some _ => .atLeast f.params.length
  | none => .exactly f.params.length

/-- What the argument at the given index, counted from zero, is taken as. -/
def param (f : Builtin) (index : Nat) : ParamType :=
  match f.params[index]? with
  | some type => type
  | none => f.rest.getD .any

/-- The signature of the function in one line. -/
def signature (f : Builtin) : String :=
  let params := ", ".intercalate (f.params.map ParamType.name)
  let rest := match f.rest with
    | some type => s!"Some({type.name})"
    | none => "None"
  s!"Builtin \x7b name: {Text.quote f.name}, params: [{params}], rest: {rest} \x7d"

end Builtin

end RecordScript
