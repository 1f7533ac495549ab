import RecordScript.Proofs.Spelled.Expression
import RecordScript.Proofs.Syntax.Unplaced

/-!
# Trees of operators

The levels of the grammar put signs around an operand from the inside, and join operands with signs
between them from the left. Both commute with a change of positions, and what holds of the operands
of a logical operator and goes through its nodes holds of all of them joined.
-/

namespace RecordScript

namespace SpelledExpr

/-- A literal is a condition of its own wherever it stands. -/
theorem relocated_asCondition {f : Position → Position} (e : SpelledExpr) :
    (asCondition e).relocated f = asCondition (e.relocated f) := by
  cases e with
  | literal pos spelling =>
    rw [asCondition, ExprOf.relocated, asCondition]
    split <;> rfl
  | _ => rfl

theorem unplaced_asCondition (e : SpelledExpr) :
    (asCondition e).unplaced = asCondition e.unplaced := by
  rw [ExprOf.unplaced_eq_relocated, relocated_asCondition, ← ExprOf.unplaced_eq_relocated]

end SpelledExpr

namespace Grammar

/-! ### Signs before an operand -/

theorem relocated_applyUnary {f : Position → Position} (ops : List (Position × UnaryOp))
    (operand : SpelledExpr) :
    (applyUnary ops operand).relocated f =
      applyUnary (ops.map (Prod.map f id)) (operand.relocated f) := by
  induction ops with
  | nil => rfl
  | cons op ops ih => exact congrArg (ExprOf.unary (f op.1) op.2) ih

theorem unplaced_applyUnary (ops : List (Position × UnaryOp)) (operand : SpelledExpr) :
    (applyUnary ops operand).unplaced =
      applyUnary ((ops.map Prod.snd).map (default, ·)) operand.unplaced := by
  rw [ExprOf.unplaced_eq_relocated, relocated_applyUnary, ← ExprOf.unplaced_eq_relocated,
    List.map_map]
  rfl

theorem relocated_applyNot {f : Position → Position} (positions : List Position)
    (operand : SpelledExpr) :
    (applyNot positions operand).relocated f =
      applyNot (positions.map f) (operand.relocated f) := by
  induction positions with
  | nil => rfl
  | cons pos positions ih =>
    refine congrArg (ExprOf.unary (f pos) .not) ?_
    rw [SpelledExpr.relocated_asCondition]
    exact congrArg SpelledExpr.asCondition ih

theorem unplaced_applyNot (positions : List Position) (operand : SpelledExpr) :
    (applyNot positions operand).unplaced =
      applyNot (positions.map fun _ => default) operand.unplaced := by
  rw [ExprOf.unplaced_eq_relocated, relocated_applyNot, ← ExprOf.unplaced_eq_relocated]
  rfl

/-! ### Signs between operands -/

/-- Operands of a logical operator are joined from the left, and every operand is a condition. -/
theorem joinLogical_eq_foldl (op : LogicalOp) (pos : Position) (first : SpelledExpr)
    (others : List SpelledExpr) :
    joinLogical op pos first others =
      others.foldl (fun left right => .logical pos op left.asCondition right.asCondition)
        first := by
  cases others with
  | nil => rfl
  | cons other others =>
    -- Behind the first node the left operand is a node itself, which is a condition as it is.
    simp only [joinLogical, List.foldl_cons]
    generalize first.asCondition = left
    generalize other.asCondition = right
    induction others generalizing left right with
    | nil => rfl
    | cons other others ih => exact ih _ _

/-- What holds of the operands, and of a node over operands of which it holds, holds of all operands
joined. -/
theorem joinLogical_induction {P : SpelledExpr → Prop} {op : LogicalOp} {pos : Position}
    {first : SpelledExpr} {others : List SpelledExpr} (hfirst : P first)
    (hothers : ∀ e ∈ others, P e)
    (hnode : ∀ {l r : SpelledExpr}, P l → P r → P (.logical pos op l.asCondition r.asCondition)) :
    P (joinLogical op pos first others) := by
  rw [joinLogical_eq_foldl]
  induction others generalizing first with
  | nil => exact hfirst
  | cons other others ih =>
    obtain ⟨hother, hothers⟩ := List.forall_mem_cons.mp hothers
    exact ih (hnode hfirst hother) hothers

theorem relocated_joinLogical {f : Position → Position} (op : LogicalOp) (pos : Position)
    (first : SpelledExpr) (others : List SpelledExpr) :
    (joinLogical op pos first others).relocated f =
      joinLogical op (f pos) (first.relocated f) (others.map (ExprOf.relocated f)) := by
  rw [joinLogical_eq_foldl, joinLogical_eq_foldl]
  induction others generalizing first with
  | nil => rfl
  | cons other others ih =>
    rw [List.foldl_cons, ih, List.map_cons, List.foldl_cons, ExprOf.relocated,
      SpelledExpr.relocated_asCondition, SpelledExpr.relocated_asCondition]

theorem unplaced_joinLogical (op : LogicalOp) (pos : Position) (first : SpelledExpr)
    (others : List SpelledExpr) :
    (joinLogical op pos first others).unplaced =
      joinLogical op default first.unplaced (others.map ExprOf.unplaced) := by
  rw [ExprOf.unplaced_eq_relocated, relocated_joinLogical, ← ExprOf.unplaced_eq_relocated,
    ← funext ExprOf.unplaced_eq_relocated]
  rfl

end Grammar

end RecordScript
