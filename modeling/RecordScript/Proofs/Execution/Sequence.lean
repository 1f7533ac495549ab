import RecordScript.Execution

/-!
# Executions in sequence

How executions are put together. Steps that stand behind others are executed on the record that
these leave, and what is computed in two parts before an execution can be computed one part after
the other.
-/

namespace RecordScript

variable [RegexEngine]

namespace Execution

variable {α β : Type}

theorem andThen_idle (x : Execution) : x.andThen idle = x := by
  obtain ⟨record, writes, log, error?⟩ := x
  cases error? <;> simp [andThen, idle]

theorem after_andThen (log : List String) (x : Execution) (next : Record → Execution) :
    (x.after log).andThen next = (x.andThen next).after log := by
  obtain ⟨record, writes, log', error?⟩ := x
  cases error? <;> simp [andThen, after]

theorem andThen_assoc (x : Execution) (f g : Record → Execution) :
    (x.andThen f).andThen g = x.andThen fun record => (f record).andThen g := by
  obtain ⟨record, writes, log, error?⟩ := x
  cases error? with
  | some e => rfl
  | none =>
    simp only [andThen]
    cases h : (f record).error? <;> simp [h]

/-- An execution that goes on with the value of two computations in a row. -/
theorem ofOutcome_bind (record : Record) (x : Outcome EvalError α) (f : α → Outcome EvalError β)
    (next : β → Execution) :
    ofOutcome record (x >>= f) next = ofOutcome record x fun a => ofOutcome record (f a) next := by
  obtain ⟨log, result⟩ := x
  cases result with
  | error e => rfl
  | ok a =>
    simp only [ofOutcome, bind, Outcome.andThen, Outcome.after]
    cases h : (f a).result <;> simp [after]

end Execution

section Steps

variable (config : Config)

theorem executeSteps_append (ss ts : List Step) (record : Record) :
    executeSteps config (ss ++ ts) record =
      (executeSteps config ss record).andThen (executeSteps config ts) := by
  induction ss generalizing record with
  | nil => rfl
  | cons s ss ih =>
    rw [List.cons_append, executeSteps, executeSteps, Execution.andThen_assoc]
    exact congrArg _ (funext ih)

theorem executeSteps_singleton (s : Step) (record : Record) :
    executeSteps config [s] record = s.execute config record :=
  Execution.andThen_idle _

/-- A rule is decided by its first condition, and otherwise by the rule without the first arm. -/
theorem execute_rule_cons (condition : Expr) (body : List Step) (arms : List Arm)
    (otherwise : Option (List Step)) (record : Record) :
    (Step.rule (.mk condition body :: arms) otherwise).execute config record =
      .ofOutcome record (condition.condition config record) fun holds =>
        if holds then executeSteps config body record
        else (Step.rule arms otherwise).execute config record := by
  rw [Step.execute, executeArms, Step.execute]

end Steps

end RecordScript
