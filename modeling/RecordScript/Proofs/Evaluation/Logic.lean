import RecordScript.Proofs.Evaluation.Outcome
import RecordScript.Proofs.Evaluation.Unplaced

/-!
# Logic of conditions

Conditions may log and may fail, so the laws of logic hold for them only as far as they keep which
parts are evaluated, and in which order. A logical operator asks for its right side unless the left
one decides. With this, operators of one kind can be regrouped, and a negation can be moved inside;
only the place of an error may be another one then.
-/

namespace RecordScript

namespace LogicalOp

/-- Whether a truth value on the left side decides what the operator gives, which is this value. -/
def decides : LogicalOp → Bool → Bool
  | and, first => !first
  | or, first => first

/-- The operator that is left when a negation is moved inside. -/
def dual : LogicalOp → LogicalOp
  | and => or
  | or => and

/-- A truth value decides an operator exactly if its negation decides the other one. -/
theorem decides_dual (op : LogicalOp) (first : Bool) :
    op.dual.decides (!first) = op.decides first := by
  cases op <;> simp [decides, dual]

end LogicalOp

variable [RegexEngine]

namespace Outcome

/-- A truth value that is given as an operand is taken as a condition again. -/
theorem bind_boolean_asCondition (x : Outcome EvalError Bool) (pos : Position) :
    (x >>= fun holds => (pure (.value (.boolean holds)) : Outcome EvalError Operand)) >>=
      (fun o => o.asCondition pos) = x := by
  obtain ⟨log, result⟩ := x
  cases result with
  | error e => rfl
  | ok holds => simp [bind, andThen, after, pure, succeed, Operand.asCondition, Operand.toBoolean,
      RecordScript.placed, placed, ofExcept, mapError, Except.mapError]

end Outcome

namespace Expr

variable {config : Config} {record : Record}

/-- A logical operator gives the value of its left side if this decides, and otherwise the value of
its right side. -/
theorem evaluate_logical (pos : Position) (op : LogicalOp) (left right : Expr) :
    Expr.evaluate config record (.logical pos op left right) =
      (left.condition config record >>= fun first =>
        if op.decides first then pure first else right.condition config record) >>=
          fun holds => pure (.value (.boolean holds)) := by
  rw [evaluate, condition, Outcome.bind_bind, Outcome.bind_bind]
  congr 1
  funext operand
  congr 1
  funext first
  rw [condition]
  -- only two of the four cases leave the right side to be asked
  cases op with
  | and =>
    cases first with
    | false => rfl
    | true => exact (Outcome.bind_bind _ _ _).symm
  | or =>
    cases first with
    | false => exact (Outcome.bind_bind _ _ _).symm
    | true => rfl

theorem condition_logical (pos : Position) (op : LogicalOp) (left right : Expr) :
    Expr.condition config record (.logical pos op left right) =
      left.condition config record >>= fun first =>
        if op.decides first then pure first else right.condition config record := by
  rw [condition, evaluate_logical]
  exact Outcome.bind_boolean_asCondition _ _

/-- Operators of one kind can be regrouped. -/
theorem condition_logical_assoc (op : LogicalOp) (p q p' q' : Position) (a b c : Expr) :
    Expr.condition config record (.logical p op (.logical q op a b) c) =
      Expr.condition config record (.logical p' op a (.logical q' op b c)) := by
  simp only [condition_logical, Outcome.bind_bind]
  congr 1
  funext first
  by_cases h : op.decides first = true
  · simp only [h, if_true, Outcome.pure_bind_eq]
  · simp only [h]
    rfl

theorem evaluate_logical_assoc (op : LogicalOp) (p q p' q' : Position) (a b c : Expr) :
    Expr.evaluate config record (.logical p op (.logical q op a b) c) =
      Expr.evaluate config record (.logical p' op a (.logical q' op b c)) := by
  have h : Expr.condition config record (.logical p op (.logical q op a b) c) =
      Expr.condition config record (.logical p' op a (.logical q' op b c)) :=
    condition_logical_assoc op p q p' q' a b c
  rw [condition_logical p, condition_logical p'] at h
  rw [evaluate_logical, evaluate_logical, h]

/-- A negation holds where its operand does not, and fails where it fails, at another place. -/
theorem condition_not_unplaced (pos : Position) (e : Expr) :
    (Expr.condition config record (.unary pos .not e)).unplaced =
      (e.condition config record).unplaced >>= fun holds => pure !holds := by
  rw [condition, condition, evaluate]
  simp only [Outcome.unplaced_bind, Outcome.unplaced_asCondition, Outcome.unplaced_placed_except,
    Outcome.unplaced_pure, Outcome.bind_bind]
  congr 1
  funext operand
  rw [UnaryOp.apply]
  cases h : operand.toBoolean with
  | error fault => simp [Operand.asCondition, h]; rfl
  | ok holds => simp [Operand.asCondition, h]; rfl

/-- A negation is moved inside of an operator, which becomes the other one. -/
theorem condition_not_logical_unplaced (op : LogicalOp) (p q p' q' r' : Position) (a b : Expr) :
    (Expr.condition config record (.unary p .not (.logical q op a b))).unplaced =
      (Expr.condition config record
        (.logical p' op.dual (.unary q' .not a) (.unary r' .not b))).unplaced := by
  rw [condition_not_unplaced, condition_logical, condition_logical]
  simp only [Outcome.unplaced_bind, condition_not_unplaced, Outcome.bind_bind,
    Outcome.pure_bind_eq, LogicalOp.decides_dual]
  congr 1
  funext first
  by_cases h : op.decides first = true
  · simp [h, Outcome.pure_bind_eq]
  · simp [h, condition_not_unplaced]

theorem condition_not_not_unplaced (p q : Position) (e : Expr) :
    (Expr.condition config record (.unary p .not (.unary q .not e))).unplaced =
      (e.condition config record).unplaced := by
  rw [condition_not_unplaced, condition_not_unplaced, Outcome.bind_bind]
  simp only [Outcome.pure_bind_eq, Bool.not_not, Outcome.bind_pure_eq]

end Expr

end RecordScript
