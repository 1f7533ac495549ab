import RecordScript.Evaluation.Basic
import RecordScript.Program.Basic

/-!
# Execution

Runs the steps of a program on one record. A step that fails ends the execution; what the steps
before it have written stays in the record.
-/

namespace RecordScript

variable [RegexEngine]

/-- What an execution has done: the record that it leaves, the texts it has written into fields, the
messages it has logged, and the error that has ended it early. -/
structure Execution where
  record : Record
  writes : List (String × String)
  log : List String
  error? : Option EvalError

namespace Execution

/-- The execution that does nothing. -/
def idle (record : Record) : Execution := ⟨record, [], [], none⟩

/-- The execution with messages logged before it. -/
def after (log : List String) (x : Execution) : Execution := { x with log := log ++ x.log }

/-- Goes on with the record that an execution leaves, if it has not failed. -/
def andThen (x : Execution) (next : Record → Execution) : Execution :=
  match x.error? with
  | some _ => x
  | none =>
    let y := next x.record
    { y with writes := x.writes ++ y.writes, log := x.log ++ y.log }

/-- Goes on with the value of an outcome that has left the record alone. -/
def ofOutcome {α : Type} (record : Record) (x : Outcome EvalError α) (next : α → Execution) :
    Execution :=
  match x.result with
  | .ok a => (next a).after x.log
  | .error e => ⟨record, [], x.log, some e⟩

/-- The execution that writes a text into a field. -/
def write (record : Record) (field text : String) : Execution :=
  ⟨record.set field text, [(field, text)], [], none⟩

end Execution

mutual

/-- Runs a step. -/
def Step.execute (config : Config) : Step → Record → Execution
  | .assign pos field value, record =>
    let text := do
      let operand ← Expr.evaluate config record value
      placed pos (operand.fieldText (some field))
    .ofOutcome record text (.write record field)
  | .call pos function args, record =>
    .ofOutcome record (Expr.evaluate config record (.call pos function args)) fun _ => .idle record
  | .rule arms otherwise, record =>
    executeArms config arms (fun record =>
      match otherwise with
      | some body => executeSteps config body record
      | none => .idle record) record

/-- Runs the body of the first arm whose condition holds, and `otherwise` if there is none. -/
def executeArms (config : Config) : List Arm → (Record → Execution) → Record → Execution
  | [], otherwise, record => otherwise record
  | .mk condition body :: arms, otherwise, record =>
    .ofOutcome record (Expr.condition config record condition) fun holds =>
      if holds then executeSteps config body record
      else executeArms config arms otherwise record

/-- Runs steps one after another. -/
def executeSteps (config : Config) : List Step → Record → Execution
  | [], record => .idle record
  | step :: steps, record =>
    (Step.execute config step record).andThen (executeSteps config steps)

end

namespace Program

/-- Runs the program on one record. -/
def execute (p : Program) (record : Record) : Execution := executeSteps p.config p.steps record

end Program

end RecordScript
