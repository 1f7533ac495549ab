import RecordScript.Proofs.Execution.Writes
import RecordScript.Proofs.Syntax.Tree

/-!
# Executions that do the same

Two executions of the same steps, on different records or under different configurations. A node of
an expression looks at the record and at the configuration in three ways only: it reads a field, it
calls a function, or it matches a pattern. Where these give the same on both sides, so does every
expression, and both executions write, log and fail alike; what relates the records is kept by every
write and so goes along with the steps.
-/

namespace RecordScript

variable [RegexEngine]

/-! ### Evaluation on two sides -/

/-- The node looks at nothing that is different on the two sides. -/
def Expr.SeesSame (config config' : Config) (r s : Record) : Expr → Prop
  | .field _ name => r.get name = s.get name
  | .call _ function _ =>
    ∀ f ∈ Builtin.ofName? function, f.call config r = f.call config' s
  | .pattern _ _ _ => config.isMatch = config'.isMatch
  | _ => True

section Evaluation

variable {config config' : Config} {r s : Record}

theorem evaluateArgs_congr {args : List Expr}
    (h : ∀ arg ∈ args, Expr.evaluate config r arg = Expr.evaluate config' s arg) (f : Builtin)
    (index : Nat) : evaluateArgs config r f index args = evaluateArgs config' s f index args := by
  induction args generalizing index with
  | nil => rfl
  | cons arg args ih =>
    obtain ⟨harg, hargs⟩ := List.forall_mem_cons.mp h
    simp only [evaluateArgs, harg, ih hargs]

/-- An expression gives the same on both sides if each of its nodes sees the same. -/
theorem Expr.evaluate_congr {e : Expr} (h : ∀ x ∈ e.nodes, Expr.SeesSame config config' r s x) :
    Expr.evaluate config r e = Expr.evaluate config' s e := by
  induction e using ExprOf.inductionOnChildren with
  | step e ih =>
    obtain ⟨hnode, hbelow⟩ := ExprOf.forall_nodes_iff.mp h
    have hchild : ∀ c ∈ e.children, Expr.evaluate config r c = Expr.evaluate config' s c :=
      fun c hc => ih c hc (hbelow c hc)
    cases e with
    | literal pos value => rfl
    | field pos name =>
      change r.get name = s.get name at hnode
      rw [evaluate, evaluate, hnode]
    | call pos function args =>
      rw [evaluate, evaluate]
      cases hf : Builtin.ofName? function with
      | none => rfl
      | some f =>
        have hcall : f.call config r = f.call config' s := hnode f hf
        have hargs : ∀ index, evaluateArgs config r f index args =
            evaluateArgs config' s f index args := evaluateArgs_congr hchild f
        simp only [hargs, hcall]
    | unary pos op operand =>
      simp only [evaluate, hchild operand (.head _)]
    | binary pos op left right
    | logical pos op left right
    | comparison pos op left right =>
      simp only [evaluate, hchild left (.head _), hchild right (.tail _ (.head _))]
    | pattern pos subject pattern =>
      change config.isMatch = config'.isMatch at hnode
      simp only [evaluate, hchild subject (.head _), hchild pattern (.tail _ (.head _)), hnode]
    | barePattern pos pattern => rfl

theorem Expr.condition_congr {e : Expr} (h : ∀ x ∈ e.nodes, Expr.SeesSame config config' r s x) :
    Expr.condition config r e = Expr.condition config' s e := by
  rw [condition, condition, evaluate_congr h]

end Evaluation

/-! ### Executions side by side -/

namespace Execution

/-- Two executions write, log and fail alike. -/
structure SameEffects (x y : Execution) : Prop where
  writes : x.writes = y.writes
  log : x.log = y.log
  error? : x.error? = y.error?

/-- Two executions do the same and leave records that are related. -/
structure Alike (R : Record → Record → Prop) (x y : Execution) : Prop where
  effects : x.SameEffects y
  records : R x.record y.record

variable {R : Record → Record → Prop} {r s : Record}

theorem alike_idle (h : R r s) : (idle r).Alike R (idle s) := ⟨⟨rfl, rfl, rfl⟩, h⟩

theorem Alike.andThen {x y : Execution} {next next' : Record → Execution} (h : x.Alike R y)
    (hnext : ∀ r s, R r s → (next r).Alike R (next' s)) :
    (x.andThen next).Alike R (y.andThen next') := by
  obtain ⟨⟨hwrites, hlog, herror⟩, hrecords⟩ := h
  rw [Execution.andThen, Execution.andThen, ← herror]
  split
  · rename_i e hx
    exact ⟨⟨hwrites, hlog, herror⟩, hrecords⟩
  · obtain ⟨⟨hwrites', hlog', herror'⟩, hrecords'⟩ := hnext _ _ hrecords
    refine ⟨⟨?_, ?_, herror'⟩, hrecords'⟩
    · simp only [hwrites, hwrites']
    · simp only [hlog, hlog']

theorem alike_ofOutcome {α : Type} {outcome : Outcome EvalError α} {next next' : α → Execution}
    (h : R r s) (hnext : ∀ a, (next a).Alike R (next' a)) :
    (ofOutcome r outcome next).Alike R (ofOutcome s outcome next') := by
  rw [ofOutcome, ofOutcome]
  split
  · rename_i a _
    obtain ⟨⟨hwrites, hlog, herror⟩, hrecords⟩ := hnext a
    exact ⟨⟨hwrites, congrArg (outcome.log ++ ·) hlog, herror⟩, hrecords⟩
  · exact ⟨⟨rfl, rfl, rfl⟩, h⟩

end Execution

/-! ### Steps side by side -/

section Steps

open Execution

variable {config config' : Config} {R : Record → Record → Prop}

/-- The steps do the same on both sides and keep what relates the records. -/
def StepsAlike (config config' : Config) (R : Record → Record → Prop) (ss : List Step) : Prop :=
  ∀ r s, R r s → (executeSteps config ss r).Alike R (executeSteps config' ss s)

theorem stepsAlike_of_forall {ss : List Step}
    (h : ∀ step ∈ ss, ∀ r s, R r s →
      (Step.execute config step r).Alike R (Step.execute config' step s)) :
    StepsAlike config config' R ss := by
  -- The relation of the records is the invariant: the next step starts where this one has ended.
  induction ss with
  | nil => exact fun r s hrs => alike_idle hrs
  | cons step ss ih =>
    obtain ⟨hstep, hss⟩ := List.forall_mem_cons.mp h
    intro r s hrs
    rw [executeSteps, executeSteps]
    exact (hstep r s hrs).andThen (ih hss)

/-- Both sides take the same arm, since its condition gives the same on both. -/
theorem executeArms_alike {arms : List Arm} {otherwise otherwise' : Record → Execution}
    (hcondition : ∀ a ∈ arms, ∀ r s, R r s →
      Expr.condition config r a.condition = Expr.condition config' s a.condition)
    (hbody : ∀ a ∈ arms, StepsAlike config config' R a.body)
    (hotherwise : ∀ r s, R r s → (otherwise r).Alike R (otherwise' s)) {r s : Record}
    (hrs : R r s) :
    (executeArms config arms otherwise r).Alike R (executeArms config' arms otherwise' s) := by
  induction arms with
  | nil => exact hotherwise r s hrs
  | cons a arms ih =>
    obtain ⟨hcondition, hconditions⟩ := List.forall_mem_cons.mp hcondition
    obtain ⟨hbody, hbodies⟩ := List.forall_mem_cons.mp hbody
    obtain ⟨condition, body⟩ := a
    have hsame : Expr.condition config r condition = Expr.condition config' s condition :=
      hcondition r s hrs
    rw [executeArms, executeArms, hsame]
    refine alike_ofOutcome hrs fun holds => ?_
    cases holds with
    | true => exact hbody r s hrs
    | false => exact ih hconditions hbodies

/-- A step does the same on both sides if every write keeps what relates the records and every node
sees the same on records that are related. -/
theorem Step.execute_alike
    (hset : ∀ r s field text, R r s → R (r.set field text) (s.set field text)) {step : Step}
    (hnodes : ∀ x ∈ step.expressions, ∀ r s, R r s → Expr.SeesSame config config' r s x)
    {r s : Record} (hrs : R r s) :
    (step.execute config r).Alike R (step.execute config' s) := by
  induction step generalizing r s with
  | assign pos field value =>
    have hvalue : Expr.evaluate config r value = Expr.evaluate config' s value :=
      Expr.evaluate_congr fun x hx => hnodes x hx r s hrs
    rw [Step.execute, Step.execute, hvalue]
    exact alike_ofOutcome hrs fun text => ⟨⟨rfl, rfl, rfl⟩, hset r s field text hrs⟩
  | call pos function args =>
    have hcall : Expr.evaluate config r (.call pos function args) =
        Expr.evaluate config' s (.call pos function args) :=
      Expr.evaluate_congr fun x hx => hnodes x hx r s hrs
    rw [Step.execute, Step.execute, hcall]
    exact alike_ofOutcome hrs fun _ => alike_idle hrs
  | rule arms otherwise iharms ihother =>
    rw [Step.execute, Step.execute]
    refine executeArms_alike (fun a ha r s hrs => ?_) (fun a ha => ?_) (fun r s hrs => ?_) hrs
    · refine Expr.condition_congr fun x hx => hnodes x ?_ r s hrs
      exact Step.subset_expressions_of_mem_arms ha (List.mem_append_left _ hx)
    · refine stepsAlike_of_forall fun step hstep r s hrs => iharms a ha step hstep ?_ hrs
      intro x hx
      have hmem := Step.expressions_subset_of_mem hstep hx
      exact hnodes x (Step.subset_expressions_of_mem_arms ha (List.mem_append_right _ hmem))
    · cases otherwise with
      | none => exact alike_idle hrs
      | some body =>
        refine stepsAlike_of_forall (fun step hstep r s hrs => ihother body rfl step hstep ?_ hrs)
          r s hrs
        intro x hx
        exact hnodes x (List.mem_append_right _ (Step.expressions_subset_of_mem hstep hx))

/-- Programs with the same steps do the same on records that are related, if every write keeps the
relation and every node of the steps sees the same on related records. -/
theorem Program.execute_alike {p q : Program} (hsteps : p.steps = q.steps)
    (hset : ∀ r s field text, R r s → R (r.set field text) (s.set field text))
    (hnodes : ∀ x ∈ p.expressions, ∀ r s, R r s → Expr.SeesSame p.config q.config r s x)
    {r s : Record} (hrs : R r s) : (p.execute r).Alike R (q.execute s) := by
  rw [execute, execute, ← hsteps]
  refine stepsAlike_of_forall (fun step hstep r s hrs => ?_) r s hrs
  refine Step.execute_alike hset (fun x hx => ?_) hrs
  exact hnodes x (Step.expressions_subset_of_mem hstep hx)

end Steps

end RecordScript
