import RecordScript.Evaluation.Basic
import RecordScript.Proofs.Result

/-!
# Results of outcomes

An outcome seen without its log and without the places of its errors. The view goes through every
step of a computation, so what holds of results can be proved without either.
-/

namespace RecordScript.Outcome

variable {ε α β : Type}

theorem pure_bind_eq (a : α) (f : α → Outcome ε β) : (pure a : Outcome ε α) >>= f = f a := rfl

theorem bind_pure_eq (x : Outcome ε α) : (x >>= fun a => pure a) = x := by
  obtain ⟨log, result⟩ := x
  cases result <;> simp [bind, andThen, after, pure, succeed]

/-- Three computations in a row. -/
theorem bind_bind {γ : Type} (x : Outcome ε α) (f : α → Outcome ε β) (g : β → Outcome ε γ) :
    x >>= f >>= g = x >>= fun a => f a >>= g := by
  obtain ⟨log, result⟩ := x
  cases result with
  | error e => rfl
  | ok a =>
    simp only [bind, andThen, after]
    cases (f a).result <;> simp

/-- What follows an outcome with a value need only agree for this value. -/
theorem bind_congr_of_result {x : Outcome ε α} {a : α} {f g : α → Outcome ε β}
    (h : x.result = .ok a) (hfg : f a = g a) : x >>= f = x >>= g := by
  obtain ⟨log, result⟩ := x
  obtain rfl : result = .ok a := h
  show (f a).after log = (g a).after log
  rw [hfg]

@[simp]
theorem result_bind (x : Outcome ε α) (f : α → Outcome ε β) :
    (x >>= f).result = x.result >>= fun a => (f a).result := by
  obtain ⟨log, result⟩ := x
  cases result <;> rfl

@[simp]
theorem result_pure (a : α) : (pure a : Outcome ε α).result = .ok a := rfl

@[simp]
theorem result_succeed (a : α) : (succeed a : Outcome ε α).result = .ok a := rfl

variable [RegexEngine]

theorem placed_bind (pos : Position) (x : Except Fault α) (f : α → Except Fault β) :
    RecordScript.placed pos (x >>= f) =
      RecordScript.placed pos x >>= fun a => RecordScript.placed pos (f a) := by
  cases x <;> rfl

theorem placed_map (pos : Position) (x : Except Fault α) (f : α → β) :
    RecordScript.placed pos (x.map f) = RecordScript.placed pos x >>= fun a => pure (f a) := by
  cases x <;> rfl

@[simp]
theorem result_placed (pos : Position) (r : Except Fault α) :
    (RecordScript.placed pos r).result = r.mapError (⟨·, pos⟩) := rfl

/-- The result of an outcome, without the place of its error. -/
def unlocated (x : Outcome EvalError α) : Except Fault α := x.result.mapError (·.fault)

theorem unlocated_eq_ok {x : Outcome EvalError α} {a : α} :
    x.unlocated = .ok a ↔ x.result = .ok a := by
  rw [unlocated, Result.mapError_eq_ok]

theorem unlocated_eq_error {x : Outcome EvalError α} {fault : Fault} :
    x.unlocated = .error fault ↔ ∃ e, x.result = .error e ∧ e.fault = fault := by
  rw [unlocated]
  cases x.result <;> simp [Except.mapError]

@[simp]
theorem unlocated_bind (x : Outcome EvalError α) (f : α → Outcome EvalError β) :
    (x >>= f).unlocated = x.unlocated >>= fun a => (f a).unlocated := by
  obtain ⟨log, result⟩ := x
  cases result <;> rfl

@[simp]
theorem unlocated_pure (a : α) : (pure a : Outcome EvalError α).unlocated = .ok a := rfl

@[simp]
theorem unlocated_succeed (a : α) : (succeed a : Outcome EvalError α).unlocated = .ok a := rfl

@[simp]
theorem unlocated_placed (pos : Position) (x : Outcome Fault α) :
    (x.placed pos).unlocated = x.result := by
  obtain ⟨log, result⟩ := x
  cases result <;> rfl

@[simp]
theorem unlocated_placed_except (pos : Position) (r : Except Fault α) :
    (RecordScript.placed pos r).unlocated = r :=
  unlocated_placed pos (ofExcept r)

@[simp]
theorem unlocated_asCondition (pos : Position) (o : Operand) :
    (o.asCondition pos).unlocated = o.toBoolean :=
  unlocated_placed_except pos o.toBoolean

end RecordScript.Outcome
