import RecordScript.Loading.Error
import RecordScript.Program.Basic

/-!
# Preparation of steps

Checks every call of a program against the functions there are, binds every bare pattern to the
default field, and lets the patterns of a program that ignores case ignore it.
-/

namespace RecordScript

variable [RegexEngine]

/-- The value that a literal has in a program with the given configuration. -/
def Value.prepare (config : Config) (pos : Position) : Value → Except LoadError Value
  | .regex p =>
    if config.caseInsensitive then
      match Pattern.ofSource p.source true with
      | .ok p => .ok (.regex p)
      | .error report => .error (.badText ⟨pos, .uncompiledRegex report⟩)
    else .ok (.regex p)
  | v => .ok v

mutual

/-- The expression as it is evaluated. -/
def Expr.prepare (config : Config) : Expr → Except LoadError Expr
  | .literal pos value => do return .literal pos (← value.prepare config pos)
  | .field pos name => return .field pos name
  | .call pos function args => do
    let args ← prepareCall config pos function args
    return .call pos function args
  | .unary pos op operand => do return .unary pos op (← Expr.prepare config operand)
  | .binary pos op left right => do
    let left ← Expr.prepare config left
    let right ← Expr.prepare config right
    return .binary pos op left right
  | .logical pos op left right => do
    let left ← Expr.prepare config left
    let right ← Expr.prepare config right
    return .logical pos op left right
  | .comparison pos op left right => do
    let left ← Expr.prepare config left
    let right ← Expr.prepare config right
    return .comparison pos op left right
  | .pattern pos subject pattern => do
    let subject ← Expr.prepare config subject
    let pattern ← Expr.prepare config pattern
    return .pattern pos subject pattern
  | .barePattern pos pattern =>
    match config.defaultField with
    | none => .error (.missingDefaultField pos)
    | some field => do
      let pattern ← Expr.prepare config pattern
      return .pattern pos (.field pos field) pattern

/-- The arguments of a call of a function that must exist and take as many. -/
def prepareCall (config : Config) (pos : Position) (function : String) (args : List Expr) :
    Except LoadError (List Expr) :=
  match Builtin.ofName? function with
  | none => .error (.unknownFunction function pos)
  | some f =>
    if f.arity.accepts args.length then prepareArgs config args
    else .error (.wrongArity f args.length pos)

/-- The arguments as they are evaluated. -/
def prepareArgs (config : Config) : List Expr → Except LoadError (List Expr)
  | [] => return []
  | arg :: args => do
    let arg ← Expr.prepare config arg
    let args ← prepareArgs config args
    return arg :: args

end

mutual

/-- The step as it is executed. -/
def Step.prepare (config : Config) : Step → Except LoadError Step
  | .assign pos field value => do return .assign pos field (← Expr.prepare config value)
  | .call pos function args => do
    return .call pos function (← prepareCall config pos function args)
  | .rule arms otherwise => do
    let arms ← prepareArms config arms
    match otherwise with
    | some body => return .rule arms (some (← prepareSteps config body))
    | none => return .rule arms none

/-- The arms as they are executed. -/
def prepareArms (config : Config) : List Arm → Except LoadError (List Arm)
  | [] => return []
  | .mk condition body :: arms => do
    let condition ← Expr.prepare config condition
    let body ← prepareSteps config body
    let arms ← prepareArms config arms
    return .mk condition body :: arms

/-- The steps as they are executed. -/
def prepareSteps (config : Config) : List Step → Except LoadError (List Step)
  | [] => return []
  | step :: steps => do
    let step ← Step.prepare config step
    let steps ← prepareSteps config steps
    return step :: steps

end

end RecordScript
