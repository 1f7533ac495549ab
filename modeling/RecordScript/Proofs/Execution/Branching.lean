import RecordScript.Proofs.Evaluation.Logic
import RecordScript.Proofs.Execution.Sequence

/-!
# Branches and the logic of their conditions

A rule asks the conditions of its arms in their order and stops at the first that holds, just as a
logical operator stops at a side that decides. So the arms behind an arm can be put into a rule of
their own, and an operator in a condition can be spelled out as arms or as a rule inside of an arm.
Both forms evaluate the same conditions in the same order on the same record, and so they write, log
and fail alike.
-/

namespace RecordScript

variable [RegexEngine]

namespace Step

variable {config : Config} {record : Record}

/-- The rule in which every further arm stands in a rule of its own, which is all that is done if
the arm in front of it does not hold. -/
def cascade : List Arm → Option (List Step) → Step
  | [], otherwise => .rule [] otherwise
  | [arm], otherwise => .rule [arm] otherwise
  | arm :: next :: arms, otherwise => .rule [arm] (some [cascade (next :: arms) otherwise])

theorem execute_rule_nil (body : List Step) :
    (rule [] (some body)).execute config record = executeSteps config body record := by
  rw [execute, executeArms]

/-- Rules whose last bodies do the same do the same. -/
theorem execute_rule_congr (arms : List Arm) {otherwise otherwise' : Option (List Step)}
    (h : (rule [] otherwise).execute config record = (rule [] otherwise').execute config record) :
    (rule arms otherwise).execute config record = (rule arms otherwise').execute config record := by
  induction arms with
  | nil => exact h
  | cons arm arms ih =>
    obtain ⟨condition, body⟩ := arm
    rw [execute_rule_cons, execute_rule_cons, ih]

/-- The arms from any place on can be put into a rule of their own. -/
theorem execute_rule_append (front behind : List Arm) (otherwise : Option (List Step)) :
    (rule (front ++ behind) otherwise).execute config record =
      (rule front (some [rule behind otherwise])).execute config record := by
  induction front with
  | nil => rw [List.nil_append, execute_rule_nil, executeSteps_singleton]
  | cons arm front ih =>
    obtain ⟨condition, body⟩ := arm
    rw [List.cons_append, execute_rule_cons, execute_rule_cons, ih]

theorem execute_cascade (arms : List Arm) (otherwise : Option (List Step)) :
    (cascade arms otherwise).execute config record =
      (rule arms otherwise).execute config record := by
  induction arms with
  | nil => rfl
  | cons arm arms ih =>
    cases arms with
    | nil => rfl
    | cons next arms =>
      have hsplit : (rule (arm :: next :: arms) otherwise).execute config record =
          (rule [arm] (some [rule (next :: arms) otherwise])).execute config record :=
        execute_rule_append [arm] (next :: arms) otherwise
      rw [cascade, hsplit]
      refine execute_rule_congr [arm] ?_
      rw [execute_rule_nil, execute_rule_nil, executeSteps_singleton, executeSteps_singleton, ih]

/-- A conjunction as the condition of an arm is a condition inside of another one; what is done
otherwise has to be said twice then. -/
theorem execute_rule_and (pos : Position) (a b : Expr) (body : List Step) (arms : List Arm)
    (otherwise : Option (List Step)) :
    (rule (.mk (.logical pos .and a b) body :: arms) otherwise).execute config record =
      (rule (.mk a [rule (.mk b body :: arms) otherwise] :: arms) otherwise).execute config
        record := by
  rw [execute_rule_cons, execute_rule_cons, Expr.condition_logical, Execution.ofOutcome_bind]
  congr 1
  funext first
  cases first with
  | false => rfl
  | true =>
    rw [if_pos rfl, executeSteps_singleton, execute_rule_cons]
    rfl

/-- A disjunction as the condition of an arm is two arms with the same body. -/
theorem execute_rule_or (pos : Position) (a b : Expr) (body : List Step) (arms : List Arm)
    (otherwise : Option (List Step)) :
    (rule (.mk (.logical pos .or a b) body :: arms) otherwise).execute config record =
      (rule (.mk a body :: .mk b body :: arms) otherwise).execute config record := by
  rw [execute_rule_cons, execute_rule_cons, Expr.condition_logical, Execution.ofOutcome_bind]
  congr 1
  funext first
  cases first with
  | true => rfl
  | false =>
    rw [if_neg Bool.false_ne_true, execute_rule_cons]
    rfl

end Step

/-- Branches agree with the logic of their conditions, whatever these log and however they fail.
Arms behind others, in any number, do what they do as rules inside of rules; a conjunction does what
two rules inside each other do, a disjunction what two arms do, and three conditions under one
operator can be grouped in both ways. In all of these pairs the two forms leave the same record, log
the same messages, and succeed or fail with the same error at the same place. A negation that is
moved inside an operator, and two negations that are left out, give the same truth value, log the
same messages and fail with the same fault, up to the place of the error. -/
theorem branching_agrees_with_logic (config : Config) (record : Record) :
    (∀ front behind otherwise,
      (Step.rule (front ++ behind) otherwise).execute config record =
        (Step.rule front (some [.rule behind otherwise])).execute config record) ∧
    (∀ arms otherwise, (Step.rule arms otherwise).execute config record =
      (Step.cascade arms otherwise).execute config record) ∧
    (∀ pos a b body arms otherwise,
      (Step.rule (.mk (.logical pos .and a b) body :: arms) otherwise).execute config record =
        (Step.rule (.mk a [.rule (.mk b body :: arms) otherwise] :: arms) otherwise).execute config
          record) ∧
    (∀ pos a b body arms otherwise,
      (Step.rule (.mk (.logical pos .or a b) body :: arms) otherwise).execute config record =
        (Step.rule (.mk a body :: .mk b body :: arms) otherwise).execute config record) ∧
    (∀ op p q p' q' a b c, Expr.evaluate config record (.logical p op (.logical q op a b) c) =
      Expr.evaluate config record (.logical p' op a (.logical q' op b c))) ∧
    (∀ op p q p' q' r' a b,
      (Expr.condition config record (.unary p .not (.logical q op a b))).unplaced =
        (Expr.condition config record
          (.logical p' op.dual (.unary q' .not a) (.unary r' .not b))).unplaced) ∧
    ∀ p q a, (Expr.condition config record (.unary p .not (.unary q .not a))).unplaced =
      (Expr.condition config record a).unplaced :=
  ⟨Step.execute_rule_append, fun arms otherwise => (Step.execute_cascade arms otherwise).symm,
    Step.execute_rule_and, Step.execute_rule_or, Expr.evaluate_logical_assoc,
    Expr.condition_not_logical_unplaced, Expr.condition_not_not_unplaced⟩

end RecordScript
