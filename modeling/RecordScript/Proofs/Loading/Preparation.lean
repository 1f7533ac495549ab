import RecordScript.Loading.Preparation
import RecordScript.Proofs.Result
import RecordScript.Proofs.Syntax.Tree

/-!
# What preparation asks for and what it gives

Preparation looks at every node on its own: it succeeds if every node is preparable, and what it
gives has only calls that can be made and no bare patterns.
-/

namespace RecordScript

open Result

variable [RegexEngine]

/-- The node calls a function that there is with a number of arguments that it takes. -/
def IsGoodCall (function : String) (args : List Expr) : Prop :=
  ∃ f, Builtin.ofName? function = some f ∧ f.arity.accepts args.length = true

namespace Expr

/-- What preparation asks of a single node. -/
def IsPreparable (config : Config) : Expr → Prop
  | .literal _ (.regex p) =>
    config.caseInsensitive = true → ∃ q, Pattern.ofSource p.source true = .ok q
  | .call _ function args => IsGoodCall function args
  | .barePattern _ _ => config.defaultField ≠ none
  | _ => True

/-- What preparation leaves of a single node. -/
def IsPrepared : Expr → Prop
  | .call _ function args => IsGoodCall function args
  | .barePattern _ _ => False
  | _ => True

end Expr

theorem prepareArgs_eq (config : Config) (args : List Expr) :
    prepareArgs config args = args.mapM (Expr.prepare config) := by
  induction args with
  | nil => rw [prepareArgs, List.mapM_nil]
  | cons arg args ih => rw [prepareArgs, ih, List.mapM_cons]

theorem prepareCall_eq_ok {config : Config} {pos : Position} {function : String}
    {args args' : List Expr} :
    prepareCall config pos function args = .ok args' ↔
      IsGoodCall function args ∧ args.mapM (Expr.prepare config) = .ok args' := by
  rw [prepareCall, IsGoodCall]
  cases Builtin.ofName? function with
  | none => simp
  | some f =>
    by_cases h : f.arity.accepts args.length = true
    · simp [h, prepareArgs_eq]
    · simp [h]

theorem prepareSteps_eq (config : Config) (steps : List Step) :
    prepareSteps config steps = steps.mapM (Step.prepare config) := by
  induction steps with
  | nil => rw [prepareSteps, List.mapM_nil]
  | cons step steps ih => rw [prepareSteps, ih, List.mapM_cons]

/-- An arm is prepared part by part. -/
def Arm.prepare (config : Config) (a : Arm) : Except LoadError Arm := do
  let condition ← Expr.prepare config a.condition
  let body ← prepareSteps config a.body
  return .mk condition body

theorem prepareArms_eq (config : Config) (arms : List Arm) :
    prepareArms config arms = arms.mapM (Arm.prepare config) := by
  induction arms with
  | nil => rw [prepareArms, List.mapM_nil]
  | cons a arms ih =>
    obtain ⟨condition, body⟩ := a
    rw [prepareArms, ih, List.mapM_cons, Arm.prepare]
    simp [Arm.condition, Arm.body]

theorem Value.exists_prepare_iff {config : Config} {pos : Position} {v : Value} :
    (∃ v', v.prepare config pos = .ok v') ↔ Expr.IsPreparable config (.literal pos v) := by
  cases v with
  | regex p =>
    rw [Value.prepare, Expr.IsPreparable]
    cases h : config.caseInsensitive
    · simp
    · cases Pattern.ofSource p.source true <;> simp
  | _ => simp [Value.prepare, Expr.IsPreparable]

namespace Expr

/-- An expression can be prepared if its node and its children can. -/
theorem exists_prepare_iff_children {config : Config} {e : Expr} :
    (∃ e', e.prepare config = .ok e') ↔
      e.IsPreparable config ∧ ∀ c ∈ e.children, ∃ c', Expr.prepare config c = .ok c' := by
  cases e with
  | literal pos v =>
    rw [← Value.exists_prepare_iff]
    simp [Expr.prepare, ExprOf.children]
  | call pos function args =>
    simp only [Expr.prepare, ExprOf.children, bind_eq_ok, pure_eq_ok, prepareCall_eq_ok,
      IsPreparable, ← exists_mapM_eq_ok]
    grind
  | barePattern pos pattern =>
    rw [Expr.prepare, IsPreparable]
    cases config.defaultField <;> simp [ExprOf.children]
  | _ => simp [Expr.prepare, ExprOf.children, IsPreparable]

/-- An expression can be prepared if all its nodes can. -/
theorem exists_prepare_iff {config : Config} {e : Expr} :
    (∃ e', e.prepare config = .ok e') ↔ ∀ x ∈ e.nodes, Expr.IsPreparable config x := by
  induction e using ExprOf.inductionOnChildren with
  | step e ih =>
    rw [exists_prepare_iff_children, ExprOf.forall_nodes_iff]
    grind

/-- The nodes of a prepared expression are prepared. -/
theorem isPrepared_of_prepare {config : Config} {e e' : Expr} (h : e.prepare config = .ok e') :
    ∀ x ∈ e'.nodes, Expr.IsPrepared x := by
  induction e using ExprOf.inductionOn generalizing e' with
  | literal pos v =>
    obtain ⟨v', -, rfl⟩ := by simpa [Expr.prepare] using h
    simp [ExprOf.nodes, IsPrepared]
  | field pos name =>
    obtain rfl := by simpa [Expr.prepare] using h
    simp [ExprOf.nodes, IsPrepared]
  | call pos function args ih =>
    obtain ⟨args', ⟨⟨f, hf, harity⟩, hargs⟩, rfl⟩ := by
      simpa [Expr.prepare, prepareCall_eq_ok] using h
    have hlen : args.length = args'.length := (mapM_eq_ok.mp hargs).length_eq
    rw [ExprOf.forall_nodes_iff]
    refine ⟨⟨f, hf, hlen ▸ harity⟩, fun c hc => ?_⟩
    obtain ⟨arg, harg, hprep⟩ := exists_mem_of_mapM hargs hc
    exact ih arg harg hprep
  | unary pos op operand ih =>
    obtain ⟨operand', ho, rfl⟩ := by simpa [Expr.prepare] using h
    rw [ExprOf.forall_nodes_iff]
    simpa [ExprOf.children, IsPrepared] using ih ho
  | binary pos op left right ihl ihr
  | logical pos op left right ihl ihr
  | comparison pos op left right ihl ihr
  | pattern pos left right ihl ihr =>
    obtain ⟨left', hl, right', hr, rfl⟩ := by simpa [Expr.prepare] using h
    rw [ExprOf.forall_nodes_iff]
    simpa [ExprOf.children, IsPrepared] using ⟨ihl hl, ihr hr⟩
  | barePattern pos pattern ih =>
    rw [Expr.prepare] at h
    cases hd : config.defaultField with
    | none => simp [hd] at h
    | some field =>
      obtain ⟨pattern', hp, rfl⟩ := by simpa [hd] using h
      rw [ExprOf.forall_nodes_iff]
      simpa [ExprOf.children, ExprOf.nodes, IsPrepared] using ih hp

end Expr

namespace Step

/-- Steps can be prepared together if each of them can be prepared. -/
theorem exists_prepareSteps_of_forall {config : Config} {ss : List Step}
    (h : ∀ s ∈ ss, (∃ s', Step.prepare config s = .ok s') ↔
      ∀ x ∈ s.expressions, Expr.IsPreparable config x) :
    (∃ ss', prepareSteps config ss = .ok ss') ↔
      ∀ x ∈ blockExpressions ss, Expr.IsPreparable config x := by
  rw [prepareSteps_eq, exists_mapM_eq_ok, blockExpressions_eq, List.forall_mem_flatMap]
  exact forall₂_congr h

/-- A step can be prepared if all nodes of its expressions can. -/
theorem exists_prepare_iff {config : Config} {s : Step} :
    (∃ s', s.prepare config = .ok s') ↔ ∀ x ∈ s.expressions, Expr.IsPreparable config x := by
  induction s with
  | assign pos field value =>
    rw [expressions, ← Expr.exists_prepare_iff]
    simp [Step.prepare]
  | call pos function args =>
    rw [expressions, ← Expr.exists_prepare_iff]
    simp [Step.prepare, Expr.prepare]
  | rule arms otherwise iharms ihother =>
    have harm : ∀ a ∈ arms, (∃ a', Arm.prepare config a = .ok a') ↔
        ∀ x ∈ a.condition.nodes ++ blockExpressions a.body, Expr.IsPreparable config x := by
      intro a ha
      rw [List.forall_mem_append, ← exists_prepareSteps_of_forall (iharms a ha),
        ← Expr.exists_prepare_iff]
      simp [Arm.prepare]
    have harms : (∃ arms', prepareArms config arms = .ok arms') ↔
        ∀ x ∈ armExpressions arms, Expr.IsPreparable config x := by
      rw [prepareArms_eq, exists_mapM_eq_ok, armExpressions_eq, List.forall_mem_flatMap]
      exact forall₂_congr harm
    cases otherwise with
    | none =>
      simp only [expressions, List.append_nil, ← harms]
      simp [Step.prepare]
    | some body =>
      simp only [expressions, List.forall_mem_append, ← harms,
        ← exists_prepareSteps_of_forall (ihother body rfl)]
      simp [Step.prepare]

end Step

/-- Steps can be prepared if all nodes of their expressions can. -/
theorem exists_prepareSteps_iff {config : Config} {ss : List Step} :
    (∃ ss', prepareSteps config ss = .ok ss') ↔
      ∀ x ∈ Step.blockExpressions ss, Expr.IsPreparable config x :=
  Step.exists_prepareSteps_of_forall fun _ _ => Step.exists_prepare_iff

namespace Step

/-- The nodes of prepared steps are prepared if those of each step are. -/
theorem isPrepared_of_prepareSteps_of_forall {config : Config} {ss ss' : List Step}
    (hss : prepareSteps config ss = .ok ss')
    (h : ∀ s ∈ ss, ∀ s', Step.prepare config s = .ok s' → ∀ x ∈ s'.expressions, Expr.IsPrepared x) :
    ∀ x ∈ blockExpressions ss', Expr.IsPrepared x := by
  rw [prepareSteps_eq] at hss
  rw [blockExpressions_eq, List.forall_mem_flatMap]
  intro s' hs'
  obtain ⟨s, hs, hprep⟩ := exists_mem_of_mapM hss hs'
  exact h s hs s' hprep

/-- The nodes of a prepared step are prepared. -/
theorem isPrepared_of_prepare {config : Config} {s s' : Step} (h : s.prepare config = .ok s') :
    ∀ x ∈ s'.expressions, Expr.IsPrepared x := by
  induction s generalizing s' with
  | assign pos field value =>
    obtain ⟨value', hv, rfl⟩ := by simpa [Step.prepare] using h
    exact Expr.isPrepared_of_prepare hv
  | call pos function args =>
    obtain ⟨args', hargs, rfl⟩ := by simpa [Step.prepare] using h
    have hcall : Expr.prepare config (.call pos function args) =
        .ok (.call pos function args') := by
      simp [Expr.prepare, hargs]
    exact Expr.isPrepared_of_prepare hcall
  | rule arms otherwise iharms ihother =>
    rw [Step.prepare, bind_eq_ok] at h
    obtain ⟨arms', harms, hrest⟩ := h
    have harm : ∀ x ∈ armExpressions arms', Expr.IsPrepared x := by
      rw [armExpressions_eq, List.forall_mem_flatMap]
      intro a' ha'
      obtain ⟨a, ha, hprep⟩ := exists_mem_of_mapM (prepareArms_eq config arms ▸ harms) ha'
      obtain ⟨condition, hc, body, hb, rfl⟩ := by simpa [Arm.prepare] using hprep
      rw [List.forall_mem_append]
      exact ⟨Expr.isPrepared_of_prepare hc,
        isPrepared_of_prepareSteps_of_forall hb fun s hs s' => iharms a ha s hs⟩
    cases otherwise with
    | none =>
      obtain rfl := by simpa using hrest
      simpa [expressions] using harm
    | some body =>
      obtain ⟨body', hb, rfl⟩ := by simpa using hrest
      simp only [expressions, List.forall_mem_append]
      exact ⟨harm, isPrepared_of_prepareSteps_of_forall hb fun s hs s' => ihother body rfl s hs⟩

end Step

/-- The nodes of prepared steps are prepared. -/
theorem isPrepared_of_prepareSteps {config : Config} {ss ss' : List Step}
    (h : prepareSteps config ss = .ok ss') :
    ∀ x ∈ Step.blockExpressions ss', Expr.IsPrepared x :=
  Step.isPrepared_of_prepareSteps_of_forall h fun _ _ _ => Step.isPrepared_of_prepare

end RecordScript
