import RecordScript.Program.Config
import RecordScript.Syntax.Expr

/-!
# Programs

A loaded program is a configuration and a list of steps. It holds no directives any more: headers
have become the configuration, and imported programs stand where they were imported.
-/

namespace RecordScript

variable [RegexEngine]

mutual

/-- A step of a program. -/
inductive Step where
  | assign (pos : Position) (field : String) (value : Expr)
  | call (pos : Position) (function : String) (args : List Expr)
  | rule (arms : List Arm) (otherwise : Option (List Step))

/-- A condition with the steps that it guards. -/
inductive Arm where
  | mk (condition : Expr) (body : List Step)

end

/-- A loaded program. -/
structure Program where
  config : Config
  steps : List Step

/-- The elements of a list without repetitions, in the order of their first occurrences. -/
def distinct {α : Type} [BEq α] : List α → List α
  | [] => []
  | a :: as => a :: (distinct as).filter (· != a)

mutual

/-- The fields that a step assigns, in source order, with repetitions. -/
def Step.assigned : Step → List String
  | .assign _ field _ => [field]
  | .call _ _ _ => []
  | .rule arms otherwise => armsAssigned arms ++
    match otherwise with
    | some body => stepsAssigned body
    | none => []

/-- The fields that the bodies of the arms assign. -/
def armsAssigned : List Arm → List String
  | [] => []
  | .mk _ body :: arms => stepsAssigned body ++ armsAssigned arms

/-- The fields that a list of steps assigns. -/
def stepsAssigned : List Step → List String
  | [] => []
  | step :: steps => step.assigned ++ stepsAssigned steps

end

namespace Program

/-- The fields that the program may write, in the order of their first assignments. -/
def assignedFields (p : Program) : List String := distinct (stepsAssigned p.steps)

/-- The fields to write for input with the given fields: those that the header declares, and
otherwise the fields of the input followed by those that the program adds. -/
def fields (p : Program) (input : List String) : List String :=
  match p.config.outputFields with
  | some fields => fields
  | none => distinct (input ++ p.assignedFields)

end Program

end RecordScript
