import RecordScript.Builtin.Call
import RecordScript.Evaluation.Operation
import RecordScript.Syntax.Expr

/-!
# Evaluation

What an expression gives for a record. Operands are evaluated from left to right, the operators `&`
and `|` leave out their right side where the left one decides, and a fault is placed where the node
stands whose operator or function found it.
-/

namespace RecordScript

variable [RegexEngine]

/-- A fault at the given place. -/
def Outcome.placed {α : Type} (position : Position) (x : Outcome Fault α) : Outcome EvalError α :=
  x.mapError (⟨·, position⟩)

/-- The result of an operation at the given place. -/
def placed {α : Type} (position : Position) (r : Except Fault α) : Outcome EvalError α :=
  (Outcome.ofExcept r).placed position

/-- The operand as a truth value at the given place. -/
def Operand.asCondition (position : Position) (operand : Operand) : Outcome EvalError Bool :=
  placed position operand.toBoolean

mutual

/-- What an expression gives for a record. -/
def Expr.evaluate (config : Config) (record : Record) : Expr → Outcome EvalError Operand
  | .literal _ value => .succeed (.value value)
  | .field _ name => .succeed (.field name (record.get name))
  | .call pos function args =>
    match Builtin.ofName? function with
    | none => .fail ⟨.unknownFunction function, pos⟩
    | some f => do
      let args ← evaluateArgs config record f 0 args
      let value ← (f.call config record args).placed pos
      return .value value
  | .unary pos op operand => do
    let operand ← Expr.evaluate config record operand
    return .value (← placed pos (op.apply operand))
  | .binary pos op left right => do
    let left ← Expr.evaluate config record left
    let right ← Expr.evaluate config record right
    return .value (← placed pos (op.apply left right))
  | .logical _ op left right => do
    let first ← (← Expr.evaluate config record left).asCondition left.position
    match op, first with
    | .and, false => return .value (.boolean false)
    | .or, true => return .value (.boolean true)
    | _, _ =>
      let second ← (← Expr.evaluate config record right).asCondition right.position
      return .value (.boolean second)
  | .comparison pos op left right => do
    let left ← Expr.evaluate config record left
    let right ← Expr.evaluate config record right
    return .value (.boolean (← placed pos (op.apply left right)))
  | .pattern pos subject pattern => do
    let subject ← Expr.evaluate config record subject
    let pattern ← Expr.evaluate config record pattern
    return .value (.boolean (← placed pos (config.isMatch subject pattern)))
  | .barePattern pos _ => .fail ⟨.unboundPattern, pos⟩

/-- The arguments of a function from the one at the given index on, as its parameters take them. -/
def evaluateArgs (config : Config) (record : Record) (f : Builtin) (index : Nat) :
    List Expr → Outcome EvalError (List Operand)
  | [] => .succeed []
  | arg :: args => do
    let operand ← Expr.evaluate config record arg
    let operand ← placed arg.position ((f.param index).accept operand)
    let operands ← evaluateArgs config record f (index + 1) args
    return operand :: operands

end

/-- Whether an expression holds as a condition. -/
def Expr.condition (config : Config) (record : Record) (e : Expr) : Outcome EvalError Bool := do
  (← Expr.evaluate config record e).asCondition e.position

end RecordScript
