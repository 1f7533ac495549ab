import RecordScript.Execution
import RecordScript.Proofs.Syntax.Unplaced

/-!
# Execution up to positions

Where the nodes of a program stand is seen only in the places of errors. A program without its
positions evaluates, logs, writes and fails as the program does, and its errors differ in their
places alone.
-/

namespace RecordScript

variable [RegexEngine] {α β : Type}

/-- The error without its place. -/
def EvalError.unplaced (e : EvalError) : EvalError := { e with position := default }

namespace Outcome

/-- The outcome without the place of its error. -/
def unplaced (x : Outcome EvalError α) : Outcome EvalError α := x.mapError EvalError.unplaced

@[simp]
theorem unplaced_pure (a : α) : (pure a : Outcome EvalError α).unplaced = pure a := rfl

theorem unplaced_bind (x : Outcome EvalError α) (f : α → Outcome EvalError β) :
    (x >>= f).unplaced = x.unplaced >>= fun a => (f a).unplaced := by
  obtain ⟨log, result⟩ := x
  cases result <;> rfl

@[simp]
theorem unplaced_placed (pos : Position) (x : Outcome Fault α) :
    (x.placed pos).unplaced = x.placed default := by
  obtain ⟨log, result⟩ := x
  cases result <;> rfl

@[simp]
theorem unplaced_placed_except (pos : Position) (r : Except Fault α) :
    (RecordScript.placed pos r).unplaced = RecordScript.placed default r :=
  unplaced_placed pos (ofExcept r)

@[simp]
theorem unplaced_asCondition (pos : Position) (o : Operand) :
    (o.asCondition pos).unplaced = o.asCondition default :=
  unplaced_placed_except pos o.toBoolean

end Outcome

section Evaluation

variable {config : Config} {record : Record}

theorem evaluateArgs_unplaced_of_forall {args : List Expr}
    (h : ∀ arg ∈ args,
      Expr.evaluate config record arg.unplaced = (Expr.evaluate config record arg).unplaced)
    (f : Builtin) (index : Nat) :
    evaluateArgs config record f index (unplacedArgs args) =
      (evaluateArgs config record f index args).unplaced := by
  induction args generalizing index with
  | nil => rfl
  | cons arg args ih =>
    obtain ⟨harg, hargs⟩ := List.forall_mem_cons.mp h
    simp only [unplacedArgs, evaluateArgs, Outcome.unplaced_bind, harg, ih hargs,
      ExprOf.position_unplaced, Outcome.unplaced_placed_except, Outcome.unplaced_pure]

/-- An expression without positions gives what the expression gives, up to the place of an error. -/
theorem Expr.evaluate_unplaced (e : Expr) :
    Expr.evaluate config record e.unplaced = (Expr.evaluate config record e).unplaced := by
  induction e using ExprOf.inductionOn with
  | literal pos value => rfl
  | field pos name => rfl
  | call pos function args ih =>
    rw [ExprOf.unplaced, evaluate, evaluate]
    cases Builtin.ofName? function with
    | none => rfl
    | some f =>
      simp only [evaluateArgs_unplaced_of_forall ih, Outcome.unplaced_bind, Outcome.unplaced_placed,
        Outcome.unplaced_pure]
  | unary pos op operand ih =>
    simp only [ExprOf.unplaced, evaluate, ih, Outcome.unplaced_bind, Outcome.unplaced_placed_except,
      Outcome.unplaced_pure]
  | binary pos op left right ihl ihr
  | comparison pos op left right ihl ihr
  | pattern pos left right ihl ihr =>
    simp only [ExprOf.unplaced, evaluate, ihl, ihr, Outcome.unplaced_bind,
      Outcome.unplaced_placed_except, Outcome.unplaced_pure]
  | logical pos op left right ihl ihr =>
    simp only [ExprOf.unplaced, evaluate, ihl, ihr, Outcome.unplaced_bind,
      ExprOf.position_unplaced, Outcome.unplaced_asCondition]
    congr 1
    funext operand
    congr 1
    funext first
    cases op <;> cases first <;>
      simp only [Outcome.unplaced_bind, Outcome.unplaced_asCondition, Outcome.unplaced_pure]
  | barePattern pos needle ih => rfl

/-- A condition without positions holds or fails as the condition does. -/
theorem Expr.condition_unplaced (e : Expr) :
    Expr.condition config record e.unplaced = (Expr.condition config record e).unplaced := by
  simp only [condition, evaluate_unplaced, Outcome.unplaced_bind, ExprOf.position_unplaced,
    Outcome.unplaced_asCondition]

end Evaluation

namespace Execution

/-- The execution without the place of its error. -/
def unplaced (x : Execution) : Execution := { x with error? := x.error?.map EvalError.unplaced }

@[simp]
theorem unplaced_write (record : Record) (field text : String) :
    (write record field text).unplaced = write record field text := rfl

theorem unplaced_andThen (x : Execution) (next : Record → Execution) :
    (x.andThen next).unplaced = x.unplaced.andThen fun record => (next record).unplaced := by
  obtain ⟨record, writes, log, error?⟩ := x
  cases error? <;> rfl

theorem unplaced_ofOutcome (record : Record) (x : Outcome EvalError α) (next : α → Execution) :
    (ofOutcome record x next).unplaced = ofOutcome record x.unplaced fun a => (next a).unplaced := by
  obtain ⟨log, result⟩ := x
  cases result <;> rfl

/-- Two executions are equal up to places if all that can be seen of them is equal. -/
theorem unplaced_eq_iff {x y : Execution} :
    x.unplaced = y.unplaced ↔ x.record = y.record ∧ x.writes = y.writes ∧ x.log = y.log ∧
      x.error?.map EvalError.fault = y.error?.map EvalError.fault := by
  obtain ⟨record, writes, log, error?⟩ := x
  obtain ⟨record', writes', log', error?'⟩ := y
  cases error? <;> cases error?' <;> simp [unplaced, EvalError.unplaced]

end Execution

section Execution

variable {config : Config}

theorem executeSteps_unplaced_of_forall {ss : List Step}
    (h : ∀ s ∈ ss, ∀ record,
      Step.execute config s.unplaced record = (Step.execute config s record).unplaced)
    (record : Record) :
    executeSteps config (unplacedSteps ss) record = (executeSteps config ss record).unplaced := by
  induction ss generalizing record with
  | nil => rfl
  | cons s ss ih =>
    obtain ⟨hs, hss⟩ := List.forall_mem_cons.mp h
    rw [unplacedSteps, executeSteps, executeSteps, Execution.unplaced_andThen, hs]
    exact congrArg _ (funext (ih hss))

theorem executeArms_unplaced_of_forall {arms : List Arm}
    (h : ∀ a ∈ arms, ∀ s ∈ a.body, ∀ record,
      Step.execute config s.unplaced record = (Step.execute config s record).unplaced)
    (next : Record → Execution) (record : Record) :
    executeArms config (unplacedArms arms) (fun record => (next record).unplaced) record =
      (executeArms config arms next record).unplaced := by
  induction arms with
  | nil => rfl
  | cons a arms ih =>
    obtain ⟨ha, hrest⟩ := List.forall_mem_cons.mp h
    obtain ⟨condition, body⟩ := a
    rw [unplacedArms, executeArms, executeArms, Execution.unplaced_ofOutcome,
      Expr.condition_unplaced, ih hrest]
    congr 1
    funext holds
    cases holds with
    | true => exact executeSteps_unplaced_of_forall ha record
    | false => rfl

/-- A step without positions does what the step does, up to the place of an error. -/
theorem Step.execute_unplaced (s : Step) (record : Record) :
    Step.execute config s.unplaced record = (Step.execute config s record).unplaced := by
  induction s generalizing record with
  | assign pos field value =>
    simp only [Step.unplaced, execute, Expr.evaluate_unplaced, Execution.unplaced_ofOutcome,
      Outcome.unplaced_bind, Outcome.unplaced_placed_except, Execution.unplaced_write]
  | call pos function args =>
    have hcall : Expr.evaluate config record (ExprOf.call pos function args).unplaced =
        (Expr.evaluate config record (.call pos function args)).unplaced :=
      Expr.evaluate_unplaced _
    rw [Step.unplaced, execute, execute, Execution.unplaced_ofOutcome, ← hcall]
    rfl
  | rule arms otherwise iharms ihother =>
    have harms := executeArms_unplaced_of_forall iharms
    cases otherwise with
    | none =>
      rw [Step.unplaced, execute, execute, ← harms]
      rfl
    | some body =>
      have hbody := funext (executeSteps_unplaced_of_forall (ihother body rfl))
      simp only [Step.unplaced, execute, ← harms, hbody]

/-- Steps without positions do what the steps do, up to the place of an error. -/
theorem executeSteps_unplaced (ss : List Step) (record : Record) :
    executeSteps config (unplacedSteps ss) record = (executeSteps config ss record).unplaced :=
  executeSteps_unplaced_of_forall (fun s _ => s.execute_unplaced) record

end Execution

/-- Programs that are equal up to positions do the same with every record: they write and log the
same, and fail with the same faults. -/
theorem Program.execute_congr {p q : Program} (hconfig : p.config = q.config)
    (hsteps : unplacedSteps p.steps = unplacedSteps q.steps) (record : Record) :
    (p.execute record).unplaced = (q.execute record).unplaced := by
  rw [execute, execute, ← executeSteps_unplaced, ← executeSteps_unplaced, hconfig, hsteps]

end RecordScript
