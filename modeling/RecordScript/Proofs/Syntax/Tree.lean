import RecordScript.Program.Basic
import RecordScript.Syntax.Statement

/-!
# Trees of programs

Induction over expressions and statements in which the parts of a node come as members of its lists,
and the views of a tree that later statements quantify over: the nodes of an expression, and the
expressions and directives of a list of statements.
-/

namespace RecordScript

variable {Lit Name : Type}

namespace ExprOf

/-- Induction over expressions; the arguments of a call come as members of their list. -/
@[elab_as_elim, induction_eliminator]
theorem inductionOn {motive : ExprOf Lit Name → Prop}
    (literal : ∀ pos value, motive (.literal pos value))
    (field : ∀ pos name, motive (.field pos name))
    (call : ∀ pos function args, (∀ arg ∈ args, motive arg) → motive (.call pos function args))
    (unary : ∀ pos op operand, motive operand → motive (.unary pos op operand))
    (binary : ∀ pos op left right, motive left → motive right → motive (.binary pos op left right))
    (logical : ∀ pos op left right, motive left → motive right →
      motive (.logical pos op left right))
    (comparison : ∀ pos op left right, motive left → motive right →
      motive (.comparison pos op left right))
    (pattern : ∀ pos subject pattern, motive subject → motive pattern →
      motive (.pattern pos subject pattern))
    (barePattern : ∀ pos pattern, motive pattern → motive (.barePattern pos pattern))
    (e : ExprOf Lit Name) : motive e :=
  @ExprOf.rec Lit Name motive (fun args => ∀ arg ∈ args, motive arg)
    literal field call unary binary logical comparison pattern barePattern
    (by simp) (by intro arg args harg hargs; simpa using ⟨harg, hargs⟩) e

/-- The expressions that stand directly below a node. -/
def children : ExprOf Lit Name → List (ExprOf Lit Name)
  | .literal _ _ | .field _ _ => []
  | .call _ _ args => args
  | .unary _ _ operand => [operand]
  | .binary _ _ left right | .logical _ _ left right | .comparison _ _ left right => [left, right]
  | .pattern _ subject needle => [subject, needle]
  | .barePattern _ needle => [needle]

/-- Induction over expressions by their children, for claims that treat all nodes alike. -/
theorem inductionOnChildren {motive : ExprOf Lit Name → Prop}
    (step : ∀ e, (∀ c ∈ e.children, motive c) → motive e) (e : ExprOf Lit Name) : motive e := by
  induction e
  all_goals
    apply step
    clear step
    simp_all [children]

mutual

/-- The expression and all expressions inside it. -/
def nodes : ExprOf Lit Name → List (ExprOf Lit Name)
  | .literal pos value => [.literal pos value]
  | .field pos name => [.field pos name]
  | .call pos function args => .call pos function args :: nodesOfAll args
  | .unary pos op operand => .unary pos op operand :: nodes operand
  | .binary pos op left right => .binary pos op left right :: (nodes left ++ nodes right)
  | .logical pos op left right => .logical pos op left right :: (nodes left ++ nodes right)
  | .comparison pos op left right => .comparison pos op left right :: (nodes left ++ nodes right)
  | .pattern pos subject needle => .pattern pos subject needle :: (nodes subject ++ nodes needle)
  | .barePattern pos needle => .barePattern pos needle :: nodes needle

/-- The expressions of a list and all expressions inside them. -/
def nodesOfAll : List (ExprOf Lit Name) → List (ExprOf Lit Name)
  | [] => []
  | e :: es => nodes e ++ nodesOfAll es

end

theorem nodesOfAll_eq (es : List (ExprOf Lit Name)) : nodesOfAll es = es.flatMap nodes := by
  induction es with
  | nil => rfl
  | cons e es ih => rw [nodesOfAll, ih, List.flatMap_cons]

/-- The nodes of an expression are itself and the nodes of its children. -/
theorem nodes_eq (e : ExprOf Lit Name) : e.nodes = e :: e.children.flatMap nodes := by
  cases e <;> simp [nodes, children, nodesOfAll_eq]

theorem self_mem_nodes (e : ExprOf Lit Name) : e ∈ e.nodes := by
  rw [nodes_eq]
  exact List.mem_cons_self

theorem mem_nodes_iff {e x : ExprOf Lit Name} :
    x ∈ e.nodes ↔ x = e ∨ ∃ c ∈ e.children, x ∈ c.nodes := by
  rw [nodes_eq, List.mem_cons, List.mem_flatMap]

/-- Every node has a property if the expression has it and all nodes below it have it. -/
theorem forall_nodes_iff {P : ExprOf Lit Name → Prop} {e : ExprOf Lit Name} :
    (∀ x ∈ e.nodes, P x) ↔ P e ∧ ∀ c ∈ e.children, ∀ x ∈ c.nodes, P x := by
  constructor
  · intro h
    exact ⟨h e e.self_mem_nodes, fun c hc x hx => h x (mem_nodes_iff.mpr (.inr ⟨c, hc, hx⟩))⟩
  · rintro ⟨he, hc⟩ x hx
    rcases mem_nodes_iff.mp hx with rfl | ⟨c, hmem, hx⟩
    · exact he
    · exact hc c hmem x hx

/-- The nodes of a node are nodes of the expression. -/
theorem nodes_subset_of_mem {e x : ExprOf Lit Name} (h : x ∈ e.nodes) : x.nodes ⊆ e.nodes := by
  induction e using inductionOnChildren with
  | step e ih =>
    rcases mem_nodes_iff.mp h with rfl | ⟨c, hc, hx⟩
    · exact List.Subset.refl _
    · intro y hy
      exact mem_nodes_iff.mpr (.inr ⟨c, hc, ih c hc hx hy⟩)

end ExprOf

namespace BranchOf

/-- The condition of a branch. -/
def condition : BranchOf Lit Name → ExprOf Lit Name
  | .mk condition _ => condition

/-- The statements that a branch guards. -/
def body : BranchOf Lit Name → List (StatementOf Lit Name)
  | .mk _ body => body

end BranchOf

namespace StatementOf

/-- Induction over statements; the statements of the bodies come as members of their lists. -/
@[elab_as_elim, induction_eliminator]
theorem inductionOn {motive : StatementOf Lit Name → Prop}
    (assign : ∀ pos field value, motive (.assign pos field value))
    (call : ∀ pos function args, motive (.call pos function args))
    (rule : ∀ branches otherwise, (∀ b ∈ branches, ∀ s ∈ b.body, motive s) →
      (∀ body ∈ otherwise, ∀ s ∈ body, motive s) → motive (.rule branches otherwise))
    (directive : ∀ d, motive (.directive d))
    (s : StatementOf Lit Name) : motive s :=
  @StatementOf.rec Lit Name motive (fun b => ∀ s ∈ b.body, motive s)
    (fun branches => ∀ b ∈ branches, ∀ s ∈ b.body, motive s)
    (fun otherwise => ∀ body ∈ otherwise, ∀ s ∈ body, motive s)
    (fun body => ∀ s ∈ body, motive s)
    assign call rule directive
    (by intro _ _ h; exact h)
    (by simp) (by intro b branches hb hbranches; simpa using ⟨hb, hbranches⟩)
    (by simp) (by intro body h; simpa using h)
    (by simp) (by intro s body hs hbody; simpa using ⟨hs, hbody⟩) s

mutual

/-- The nodes of the expressions that a statement evaluates, in its conditions and bodies too. A call
is an expression of its own; the arguments of directives are not evaluated. -/
def expressions : StatementOf Lit Name → List (ExprOf Lit Name)
  | .assign _ _ value => value.nodes
  | .call pos function args => (ExprOf.call pos function args).nodes
  | .rule branches otherwise => branchExpressions branches ++
    match otherwise with
    | some body => blockExpressions body
    | none => []
  | .directive _ => []

/-- The nodes of the expressions that the statements evaluate. -/
def blockExpressions : List (StatementOf Lit Name) → List (ExprOf Lit Name)
  | [] => []
  | s :: ss => expressions s ++ blockExpressions ss

/-- The nodes of the expressions that the branches evaluate. -/
def branchExpressions : List (BranchOf Lit Name) → List (ExprOf Lit Name)
  | [] => []
  | .mk condition body :: branches =>
    condition.nodes ++ blockExpressions body ++ branchExpressions branches

end

mutual

/-- The directives in a statement, in the bodies of its rules too. -/
def directives : StatementOf Lit Name → List (DirectiveOf Lit Name)
  | .assign _ _ _ | .call _ _ _ => []
  | .rule branches otherwise => branchDirectives branches ++
    match otherwise with
    | some body => blockDirectives body
    | none => []
  | .directive d => [d]

/-- The directives in a list of statements. -/
def blockDirectives : List (StatementOf Lit Name) → List (DirectiveOf Lit Name)
  | [] => []
  | s :: ss => directives s ++ blockDirectives ss

/-- The directives in the bodies of branches. -/
def branchDirectives : List (BranchOf Lit Name) → List (DirectiveOf Lit Name)
  | [] => []
  | .mk _ body :: branches => blockDirectives body ++ branchDirectives branches

end

theorem blockExpressions_eq (ss : List (StatementOf Lit Name)) :
    blockExpressions ss = ss.flatMap expressions := by
  induction ss with
  | nil => rfl
  | cons s ss ih => rw [blockExpressions, ih, List.flatMap_cons]

theorem branchExpressions_eq (branches : List (BranchOf Lit Name)) :
    branchExpressions branches =
      branches.flatMap fun b => b.condition.nodes ++ blockExpressions b.body := by
  induction branches with
  | nil => rfl
  | cons b branches ih =>
    obtain ⟨condition, body⟩ := b
    rw [branchExpressions, ih, List.flatMap_cons]
    rfl

end StatementOf

variable [RegexEngine]

namespace Arm

/-- The condition of an arm. -/
def condition : Arm → Expr
  | .mk condition _ => condition

/-- The steps that an arm guards. -/
def body : Arm → List Step
  | .mk _ body => body

end Arm

namespace Step

/-- Induction over steps; the steps of the bodies come as members of their lists. -/
@[elab_as_elim, induction_eliminator]
theorem inductionOn {motive : Step → Prop}
    (assign : ∀ pos field value, motive (.assign pos field value))
    (call : ∀ pos function args, motive (.call pos function args))
    (rule : ∀ arms otherwise, (∀ a ∈ arms, ∀ s ∈ a.body, motive s) →
      (∀ body ∈ otherwise, ∀ s ∈ body, motive s) → motive (.rule arms otherwise))
    (s : Step) : motive s :=
  @Step.rec _ motive (fun a => ∀ s ∈ a.body, motive s)
    (fun arms => ∀ a ∈ arms, ∀ s ∈ a.body, motive s)
    (fun otherwise => ∀ body ∈ otherwise, ∀ s ∈ body, motive s) (fun body => ∀ s ∈ body, motive s)
    assign call rule
    (by intro _ _ h; exact h)
    (by simp) (by intro a arms ha harms; simpa using ⟨ha, harms⟩)
    (by simp) (by intro body h; simpa using h)
    (by simp) (by intro s body hs hbody; simpa using ⟨hs, hbody⟩) s

mutual

/-- The nodes of the expressions that a step evaluates, in its conditions and bodies too. -/
def expressions : Step → List Expr
  | .assign _ _ value => value.nodes
  | .call pos function args => (ExprOf.call pos function args).nodes
  | .rule arms otherwise => armExpressions arms ++
    match otherwise with
    | some body => blockExpressions body
    | none => []

/-- The nodes of the expressions that the steps evaluate. -/
def blockExpressions : List Step → List Expr
  | [] => []
  | s :: ss => expressions s ++ blockExpressions ss

/-- The nodes of the expressions that the arms evaluate. -/
def armExpressions : List Arm → List Expr
  | [] => []
  | .mk condition body :: arms => condition.nodes ++ blockExpressions body ++ armExpressions arms

end

theorem blockExpressions_eq (ss : List Step) : blockExpressions ss = ss.flatMap expressions := by
  induction ss with
  | nil => rfl
  | cons s ss ih => rw [blockExpressions, ih, List.flatMap_cons]

theorem expressions_subset_of_mem {s : Step} {ss : List Step} (h : s ∈ ss) :
    s.expressions ⊆ blockExpressions ss := by
  intro x hx
  rw [blockExpressions_eq, List.mem_flatMap]
  exact ⟨s, h, hx⟩

theorem blockExpressions_append (ss ts : List Step) :
    blockExpressions (ss ++ ts) = blockExpressions ss ++ blockExpressions ts := by
  simp only [blockExpressions_eq, List.flatMap_append]

theorem armExpressions_eq (arms : List Arm) :
    armExpressions arms = arms.flatMap fun a => a.condition.nodes ++ blockExpressions a.body := by
  induction arms with
  | nil => rfl
  | cons a arms ih =>
    obtain ⟨condition, body⟩ := a
    rw [armExpressions, ih, List.flatMap_cons]
    rfl

/-- The expressions of an arm are expressions of the rule. -/
theorem subset_expressions_of_mem_arms {arms : List Arm} {otherwise : Option (List Step)} {a : Arm}
    (ha : a ∈ arms) :
    a.condition.nodes ++ blockExpressions a.body ⊆ (Step.rule arms otherwise).expressions := by
  intro x hx
  rw [expressions.eq_def]
  refine List.mem_append_left _ ?_
  rw [armExpressions_eq, List.mem_flatMap]
  exact ⟨a, ha, hx⟩

/-- The nodes of an expression of a step are expressions of the step. -/
theorem nodes_subset_expressions {s : Step} {e : Expr} (h : e ∈ s.expressions) :
    e.nodes ⊆ s.expressions := by
  induction s with
  | assign pos field value => exact ExprOf.nodes_subset_of_mem h
  | call pos function args => exact ExprOf.nodes_subset_of_mem h
  | rule arms otherwise iharms ihother =>
    have hblock : ∀ {ss : List Step}, (∀ s ∈ ss, e ∈ s.expressions → e.nodes ⊆ s.expressions) →
        e ∈ blockExpressions ss → e.nodes ⊆ blockExpressions ss := by
      intro ss ih he x hx
      rw [blockExpressions_eq, List.mem_flatMap] at he ⊢
      obtain ⟨s, hs, he⟩ := he
      exact ⟨s, hs, ih s hs he hx⟩
    have harms : e ∈ armExpressions arms → e.nodes ⊆ armExpressions arms := by
      intro he x hx
      rw [armExpressions_eq, List.mem_flatMap] at he ⊢
      obtain ⟨a, ha, he⟩ := he
      refine ⟨a, ha, ?_⟩
      rcases List.mem_append.mp he with he | he
      · exact List.mem_append_left _ (ExprOf.nodes_subset_of_mem he hx)
      · exact List.mem_append_right _ (hblock (fun s hs => iharms a ha s hs) he hx)
    cases otherwise with
    | none =>
      simp only [expressions, List.append_nil] at h ⊢
      exact harms h
    | some body =>
      intro x hx
      simp only [expressions, List.mem_append] at h ⊢
      rcases h with h | h
      · exact .inl (harms h hx)
      · exact .inr (hblock (fun s hs => ihother body rfl s hs) h hx)

theorem nodes_subset_blockExpressions {ss : List Step} {e : Expr}
    (h : e ∈ blockExpressions ss) : e.nodes ⊆ blockExpressions ss := by
  intro x hx
  rw [blockExpressions_eq, List.mem_flatMap] at h ⊢
  obtain ⟨s, hs, he⟩ := h
  exact ⟨s, hs, nodes_subset_expressions he hx⟩

end Step

/-- The nodes of all expressions of a program. -/
def Program.expressions (p : Program) : List Expr := Step.blockExpressions p.steps

end RecordScript
