import RecordScript.Builtin.Basic
import RecordScript.Calendar.Reader
import RecordScript.Evaluation.Outcome
import RecordScript.Program.Config
import RecordScript.Record

/-!
# Calls

What the builtin functions compute. Only `log` leaves a message, and only `record_str` looks at the
record.
-/

namespace RecordScript

variable [RegexEngine]

namespace Builtin

/-- The fault of a wrong number of arguments. -/
def wrongCount (expected : Nat) (args : List Operand) : Fault :=
  .type (.argumentCount expected args.length)

/-- The operand as an integer of 64 bits. -/
def toInteger (operand : Operand) : Except Fault Int := do
  let n ← operand.toNumber
  match n.toInteger? with
  | some i => return i
  | none => throw (.notInteger n)

/-- The number in a text that may hold commas. A fault shows the text with its commas. -/
def readNumber (field : Option String) (text : String) : Except Fault Value :=
  match Decimal.parse (String.ofList (text.toList.filter (· ≠ ','))) with
  | some n => .ok (.number n)
  | none => .error (.cast field text .number)

/-- The argument as a number in which commas do not count. -/
def callAsNumber : List Operand → Except Fault Value
  | [.field name text] => readNumber (some name) text
  | [.value (.string text)] => readNumber none text
  | [.value (.number n)] => .ok (.number n)
  | [.value v] => .error (.type (.notConvertible v.type))
  | args => .error (wrongCount 1 args)

/-- Logs the arguments with a space between them. -/
def callLog (args : List Operand) : Outcome Fault Value :=
  if args.any (· = .value .none) then .fail (.type .notPrintable)
  else ⟨[" ".intercalate (args.map Operand.render)], .ok .none⟩

/-- The date that the first argument spells in the format of the second. -/
def callReadDate : List Operand → Except Fault Value
  | [text, format] => do
    let text ← text.toText
    let format ← format.toText
    match Date.read text format with
    | .ok date => return .string date.render
    | .error problem => throw (.date text format problem)
  | args => .error (wrongCount 2 args)

/-- The text that shows a whole record. -/
def recordForm (record : Record) : String :=
  let fields := record.fields.map fun (name, text) => s!"{Text.quote name}: {Text.quote text}"
  "\x7b" ++ ", ".intercalate fields ++ "\x7d"

/-- The place in a text of the given length that an index means: a negative index counts from the
end, and an index beyond either end means that end. -/
def placeOf (length : Nat) (index : Int) : Nat :=
  if index < 0 then (index + length).toNat else min index.toNat length

/-- The part of a list between two indices. -/
def between {α : Type} (as : List α) (start stop : Int) : List α :=
  let start := placeOf as.length start
  let stop := placeOf as.length stop
  (as.drop start).take (stop - start)

/-- The part of the first argument between the indices in the two others. -/
def callSubstring : List Operand → Except Fault Value
  | [text, start, stop] => do
    let text ← text.toText
    let start ← toInteger start
    let stop ← toInteger stop
    return .string (String.ofList (between text.toList start stop))
  | args => .error (wrongCount 3 args)

/-- What a function gives for its arguments. -/
def call (config : Config) (record : Record) (f : Builtin) (args : List Operand) :
    Outcome Fault Value :=
  match f with
  | asNumber => .ofExcept (callAsNumber args)
  | log => callLog args
  | readDate => .ofExcept (callReadDate args)
  | recordText => .succeed (.string (recordForm record))
  | substring => .ofExcept (callSubstring args)
  | inputProtocol => .succeed (.string config.protocols.input)
  | outputProtocol => .succeed (.string config.protocols.output)

end Builtin

end RecordScript
