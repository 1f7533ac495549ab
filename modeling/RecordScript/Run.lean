import RecordScript.Evaluation.Outcome
import RecordScript.Execution

/-!
# Runs

Takes a sequence of records through a program, one after another. What happens to a record that
fails is a policy of the run; an error always holds the record as it came in.
-/

namespace RecordScript

variable [RegexEngine]

/-- What happens to a record that fails. -/
inductive ErrorPolicy where
  /-- The run ends with its error. -/
  | abort
  /-- The record is left out. -/
  | skip
  /-- The record goes out as it came in. -/
  | keep
deriving DecidableEq, Repr

/-- A failure, with the record as it came in and its place in the input, counted from zero. -/
structure RecordError where
  index : Nat
  record : Record
  error : EvalError
deriving DecidableEq

namespace RecordError

/-- The lines that show the fields of the record. -/
def fieldLines (e : RecordError) : String :=
  "\n".intercalate (e.record.fields.map fun (name, text) => s!"\t{name}: {text}")

/-- The wording of the failure, with a line for every field. -/
def message (e : RecordError) : String :=
  s!"record {e.index}: {e.error.message}\n{e.fieldLines}"

/-- The wording of the failure with the phase that it ended. -/
def report (e : RecordError) : String := s!"error while processing {e.message}"

end RecordError

/-- What a run gives: the records that go out, and the failures that its policy has tolerated. -/
structure RunOutput where
  records : List Record := []
  errors : List RecordError := []
deriving DecidableEq

namespace RunOutput

/-- The output with one more record in front. -/
def emit (record : Record) (out : RunOutput) : RunOutput :=
  { out with records := record :: out.records }

/-- The output with one more tolerated failure in front. -/
def tolerate (e : RecordError) (out : RunOutput) : RunOutput :=
  { out with errors := e :: out.errors }

end RunOutput

namespace Program

/-- The record that the program makes of a record. -/
def transform (p : Program) (record : Record) : Outcome EvalError Record :=
  let x := p.execute record
  ⟨x.log, match x.error? with
    | none => .ok x.record
    | some e => .error e⟩

/-- The record that the program makes of the record at a place of the input. -/
def process (p : Program) (input : Nat × Record) : Outcome RecordError Record :=
  (p.transform input.2).mapError (⟨input.1, input.2, ·⟩)

/-- The records with their places in the input, in the order in which they are taken. -/
def ordered (p : Program) (records : List Record) : List (Nat × Record) :=
  let inputs := (List.range records.length).zip records
  if p.config.reverse then inputs.reverse else inputs

/-- What a processed record adds in front of the rest of the output; a failure that the policy does
not tolerate ends the run before the rest. -/
def accept (policy : ErrorPolicy) (result : Except RecordError Record)
    (rest : Outcome RecordError RunOutput) : Outcome RecordError RunOutput :=
  match result, policy with
  | .ok record, _ => ⟨rest.log, rest.result.map (·.emit record)⟩
  | .error e, .abort => .fail e
  | .error e, .skip => ⟨rest.log, rest.result.map (·.tolerate e)⟩
  | .error e, .keep => ⟨rest.log, rest.result.map fun out => (out.tolerate e).emit e.record⟩

/-- Takes records through the program in the given order. -/
def runInputs (p : Program) (policy : ErrorPolicy) :
    List (Nat × Record) → Outcome RecordError RunOutput
  | [] => .succeed {}
  | input :: inputs =>
    let x := p.process input
    (accept policy x.result (p.runInputs policy inputs)).after x.log

/-- Takes a sequence of records through the program. -/
def run (p : Program) (policy : ErrorPolicy) (records : List Record) :
    Outcome RecordError RunOutput :=
  p.runInputs policy (p.ordered records)

end Program

end RecordScript
