import RecordScript.Proofs.Grammar.Operators
import RecordScript.Proofs.Grammar.Parser
import RecordScript.Proofs.Spelled.Agreement
import RecordScript.Proofs.Syntax.Decode

/-!
# Places of bare patterns

A bare pattern stands where its pattern stands: the grammar makes it of a literal that is found to
be a condition, and gives it the place of the literal. Level by level of the grammar, and then
through decoding.
-/

namespace RecordScript

namespace Parser

variable {α β : Type} {P : α → Prop} {Q : β → Prop} {p q : Parser α} {f : α → Parser β}

/-- Whatever the parser reads has the property. -/
def Ensures (P : α → Prop) (p : Parser α) : Prop := ∀ ⦃c a c'⦄, (p c).outcome = some (a, c') → P a

theorem ensures_pure {a : α} (h : P a) : Ensures P (pure a) :=
  fun _ => always_pure (P := fun b _ => P b) h

theorem Ensures.bind (hp : Ensures P p) (hf : ∀ a, P a → Ensures Q (f a)) :
    Ensures Q (p >>= f) :=
  fun c => Always.bind (@hp c) fun a mid ha => @hf a ha mid

/-- A part of which nothing is needed. -/
theorem ensures_bind (hf : ∀ a, Ensures Q (f a)) : Ensures Q (p >>= f) :=
  Ensures.bind (P := fun _ => True) (fun _ _ _ _ => trivial) fun a _ => hf a

theorem Ensures.map {g : α → β} (hp : Ensures P p) (hg : ∀ a, P a → Q (g a)) :
    Ensures Q (g <$> p) :=
  hp.bind fun a ha => ensures_pure (hg a ha)

theorem Ensures.orElse (hp : Ensures P p) (hq : Ensures P q) : Ensures P (p <|> q) :=
  fun c => Always.orElse (@hp c) (@hq c)

theorem Ensures.named (hp : Ensures P p) (construct : Construct) :
    Ensures P (named construct p) :=
  fun c => Always.named (@hp c) construct

theorem Ensures.optional (hp : Ensures P p) : Ensures (fun o => ∀ a ∈ o, P a) (optional p) := by
  have hsome : Ensures (fun o => ∀ a ∈ o, P a) (some <$> p) := hp.map (by simp)
  exact hsome.orElse (ensures_pure (by simp))

theorem Ensures.many (hp : Ensures P p) (limit : Nat) :
    Ensures (fun as => ∀ a ∈ as, P a) (many limit p) :=
  always_many (R := fun _ as _ => ∀ a ∈ as, P a) (fun c => @hp c) (by simp)
    (fun ha has => List.forall_mem_cons.mpr ⟨ha, has⟩) limit

end Parser

namespace ExprOf

variable {Lit Name : Type}

/-- The node is no bare pattern, or one that stands where its pattern stands. -/
def IsInPlace : ExprOf Lit Name → Prop
  | .barePattern pos needle => needle.position = pos
  | _ => True

/-- All nodes of the expression are in place. -/
def AllInPlace (e : ExprOf Lit Name) : Prop := ∀ x ∈ e.nodes, x.IsInPlace

theorem allInPlace_iff {e : ExprOf Lit Name} :
    e.AllInPlace ↔ e.IsInPlace ∧ ∀ c ∈ e.children, c.AllInPlace :=
  forall_nodes_iff

theorem allInPlace_literal (pos : Position) (value : Lit) :
    (literal pos value : ExprOf Lit Name).AllInPlace :=
  allInPlace_iff.mpr ⟨trivial, by simp [children]⟩

theorem allInPlace_field (pos : Position) (name : Name) :
    (field pos name : ExprOf Lit Name).AllInPlace :=
  allInPlace_iff.mpr ⟨trivial, by simp [children]⟩

theorem AllInPlace.unary {pos : Position} {op : UnaryOp} {operand : ExprOf Lit Name}
    (h : operand.AllInPlace) : (unary pos op operand).AllInPlace :=
  allInPlace_iff.mpr ⟨trivial, by simpa [children] using h⟩

theorem AllInPlace.binary {pos : Position} {op : BinaryOp} {left right : ExprOf Lit Name}
    (hl : left.AllInPlace) (hr : right.AllInPlace) : (binary pos op left right).AllInPlace :=
  allInPlace_iff.mpr ⟨trivial, by simpa [children] using ⟨hl, hr⟩⟩

theorem AllInPlace.logical {pos : Position} {op : LogicalOp} {left right : ExprOf Lit Name}
    (hl : left.AllInPlace) (hr : right.AllInPlace) : (logical pos op left right).AllInPlace :=
  allInPlace_iff.mpr ⟨trivial, by simpa [children] using ⟨hl, hr⟩⟩

end ExprOf

/-- A literal that becomes a bare pattern gives it its place. -/
theorem SpelledExpr.allInPlace_asCondition {e : SpelledExpr} (h : e.AllInPlace) :
    (SpelledExpr.asCondition e).AllInPlace := by
  cases e with
  | literal pos spelling =>
    rw [SpelledExpr.asCondition]
    split
    · refine ExprOf.allInPlace_iff.mpr ⟨rfl, ?_⟩
      simpa [ExprOf.children] using ExprOf.allInPlace_literal pos spelling
    · exact h
  | _ => exact h

namespace Grammar

open RecordScript.Parser ExprOf

/-! ### Expressions -/

section Levels

variable {E : Parser SpelledExpr} (limit : Nat)

theorem ensures_anyLiteral : Ensures AllInPlace anyLiteral := by
  have hliteral : ∀ construct scan spelling,
      Ensures AllInPlace (literal construct scan spelling) :=
    fun _ _ _ => ensures_bind fun _ => ensures_bind fun _ => ensures_pure (allInPlace_literal _ _)
  exact (hliteral _ _ _).orElse ((hliteral _ _ _).orElse ((hliteral _ _ _).orElse (hliteral _ _ _)))

theorem ensures_separated (hE : Ensures AllInPlace E) :
    Ensures (fun es => ∀ e ∈ es, e.AllInPlace) (separated limit E) := by
  have hother : Ensures AllInPlace (do let _ ← sign ","; E) := ensures_bind fun _ => hE
  refine hE.bind fun first hfirst => (hother.many limit).bind fun others hothers => ?_
  exact ensures_pure (List.forall_mem_cons.mpr ⟨hfirst, hothers⟩)

theorem ensures_arguments (hE : Ensures AllInPlace E) :
    Ensures (fun es => ∀ e ∈ es, e.AllInPlace) (arguments limit E) := by
  refine Ensures.named (ensures_bind fun _ => (ensures_separated limit hE).optional.bind
    fun args hargs => ensures_bind fun _ => ensures_pure ?_) _
  cases args with
  | none => simp
  | some args => exact hargs args rfl

theorem ensures_call (hE : Ensures AllInPlace E) :
    Ensures (fun c => ∀ e ∈ c.2.2, e.AllInPlace) (call limit E) :=
  Ensures.named (ensures_bind fun _ => ensures_bind fun _ =>
    (ensures_arguments limit hE).bind fun _ hargs => ensures_pure hargs) _

theorem ensures_primary (hE : Ensures AllInPlace E) : Ensures AllInPlace (primary limit E) := by
  have hcall : Ensures AllInPlace
      ((fun c => .call c.1 c.2.1 c.2.2) <$> call limit E) :=
    (ensures_call limit hE).map fun _ hargs => allInPlace_iff.mpr ⟨trivial, hargs⟩
  have hfield : Ensures AllInPlace fieldRead :=
    ensures_bind fun _ => ensures_bind fun _ => ensures_pure (allInPlace_field _ _)
  have hparenthesized : Ensures AllInPlace (parenthesized E) :=
    ensures_bind fun _ => hE.bind fun _ he => ensures_bind fun _ => ensures_pure he
  exact ensures_anyLiteral.orElse (hcall.orElse (hfield.orElse hparenthesized))

theorem ensures_unary (hE : Ensures AllInPlace E) : Ensures AllInPlace (unary limit E) := by
  refine Ensures.named (ensures_bind fun ops => (ensures_primary limit hE).bind
    fun e he => ensures_pure ?_) _
  induction ops with
  | nil => exact he
  | cons op ops ih => exact ih.unary

theorem ensures_binaryLevel {construct opConstruct : Construct} {signs : List String}
    {operand : Parser SpelledExpr} (h : Ensures AllInPlace operand) :
    Ensures AllInPlace (binaryLevel limit construct opConstruct signs operand) := by
  have hitem : Ensures (fun item => item.2.2.AllInPlace) (do
      let op ← operator opConstruct signs binaryOp
      let right ← operand
      pure (op.1, op.2, right)) :=
    ensures_bind fun _ => h.bind fun _ hright => ensures_pure hright
  refine Ensures.named (h.bind fun first hfirst => (hitem.many limit).bind
    fun others hothers => ensures_pure ?_) _
  induction others generalizing first with
  | nil => exact hfirst
  | cons item others ih =>
    obtain ⟨hitem, hothers⟩ := List.forall_mem_cons.mp hothers
    exact ih _ (hfirst.binary hitem) hothers

theorem ensures_sum (hE : Ensures AllInPlace E) : Ensures AllInPlace (sum limit E) :=
  ensures_binaryLevel limit (ensures_binaryLevel limit (ensures_unary limit hE))

theorem ensures_comparison (hE : Ensures AllInPlace E) :
    Ensures AllInPlace (comparison limit E) := by
  have hother : Ensures (fun other => other.2.AllInPlace) (do
      let taken ← named .compareSign (token (Token.anySign Token.compareSigns))
      let right ← sum limit E
      pure (compareOp? taken, right)) :=
    ensures_bind fun _ => (ensures_sum limit hE).bind fun _ hright => ensures_pure hright
  refine Ensures.named (ensures_bind fun pos => (ensures_sum limit hE).bind fun left hleft =>
    hother.optional.bind fun other ho => ?_) _
  have hpair : ∀ right : SpelledExpr, right.AllInPlace → ∀ c ∈ [left, right], c.AllInPlace := by
    intro right hright
    simpa using ⟨hleft, hright⟩
  rcases other with _ | ⟨_ | op, right⟩
  · exact ensures_pure hleft
  · exact ensures_pure (allInPlace_iff.mpr ⟨trivial, hpair right (ho _ rfl)⟩)
  · exact ensures_pure (allInPlace_iff.mpr ⟨trivial, hpair right (ho _ rfl)⟩)

theorem ensures_negation (hE : Ensures AllInPlace E) : Ensures AllInPlace (negation limit E) := by
  refine Ensures.named (ensures_bind fun nots => (ensures_comparison limit hE).bind
    fun e he => ensures_pure ?_) _
  induction nots.map Prod.fst with
  | nil => exact he
  | cons pos positions ih => exact (SpelledExpr.allInPlace_asCondition ih).unary

theorem allInPlace_joinLogical {op : LogicalOp} {pos : Position} {first : SpelledExpr}
    {others : List SpelledExpr} (hfirst : first.AllInPlace) (hothers : ∀ e ∈ others, e.AllInPlace) :
    (joinLogical op pos first others).AllInPlace :=
  joinLogical_induction hfirst hothers fun hl hr =>
    (SpelledExpr.allInPlace_asCondition hl).logical (SpelledExpr.allInPlace_asCondition hr)

theorem ensures_conjunction (hE : Ensures AllInPlace E) :
    Ensures AllInPlace (conjunction limit E) := by
  have hother : Ensures AllInPlace (do let _ ← sign "&"; negation limit E) :=
    ensures_bind fun _ => ensures_negation limit hE
  exact Ensures.named (ensures_bind fun _ => (ensures_negation limit hE).bind
    fun first hfirst => (hother.many limit).bind fun others hothers =>
      ensures_pure (allInPlace_joinLogical hfirst hothers)) _

theorem ensures_alternatives (hE : Ensures AllInPlace E) :
    Ensures AllInPlace (alternatives limit E) := by
  have hother : Ensures AllInPlace (do let _ ← sign "|"; conjunction limit E) :=
    ensures_bind fun _ => ensures_conjunction limit hE
  exact Ensures.named (ensures_bind fun _ => ensures_bind fun _ =>
    (ensures_conjunction limit hE).bind fun first hfirst => (hother.many limit).bind
      fun others hothers => ensures_pure (allInPlace_joinLogical hfirst hothers)) _

theorem ensures_expression (depth : Nat) : Ensures AllInPlace (expression depth) := by
  induction depth with
  | zero =>
    rintro c e c' ⟨⟩
  | succ depth ih => exact ensures_alternatives depth ih

end Levels

/-! ### Statements -/

/-- All expressions of the statement are in place. -/
def IsStatementInPlace (s : SpelledStatement) : Prop := ∀ x ∈ s.expressions, x.IsInPlace

/-- All expressions of the statements are in place. -/
def IsBlockInPlace (ss : List SpelledStatement) : Prop :=
  ∀ x ∈ StatementOf.blockExpressions ss, x.IsInPlace

theorem isBlockInPlace_of_forall {ss : List SpelledStatement}
    (h : ∀ s ∈ ss, IsStatementInPlace s) : IsBlockInPlace ss := by
  rw [IsBlockInPlace, StatementOf.blockExpressions_eq, List.forall_mem_flatMap]
  exact h

section Statements

variable {block : Parser (List SpelledStatement)} (limit : Nat)

theorem ensures_branch {construct opening : Construct} {name : String}
    (h : Ensures IsBlockInPlace block) :
    Ensures (fun b => b.condition.AllInPlace ∧ IsBlockInPlace b.body)
      (branch limit construct opening name block) :=
  Ensures.named (ensures_bind fun _ => (ensures_expression limit).bind fun _ hcondition =>
    ensures_bind fun _ => h.bind fun _ hbody =>
      ensures_pure ⟨SpelledExpr.allInPlace_asCondition hcondition, hbody⟩) _

theorem isStatementInPlace_rule {branches : List SpelledBranch}
    {otherwise : Option (List SpelledStatement)}
    (hb : ∀ b ∈ branches, b.condition.AllInPlace ∧ IsBlockInPlace b.body)
    (ho : ∀ body ∈ otherwise, IsBlockInPlace body) :
    IsStatementInPlace (.rule branches otherwise) := by
  have hbranches : ∀ x ∈ StatementOf.branchExpressions branches, x.IsInPlace := by
    rw [StatementOf.branchExpressions_eq, List.forall_mem_flatMap]
    exact fun b hmem => List.forall_mem_append.mpr (hb b hmem)
  cases otherwise with
  | none => simpa [IsStatementInPlace, StatementOf.expressions] using hbranches
  | some body => exact List.forall_mem_append.mpr ⟨hbranches, ho body rfl⟩

theorem ensures_rule (h : Ensures IsBlockInPlace block) :
    Ensures IsStatementInPlace (rule limit block) := by
  have helse : Ensures IsBlockInPlace (named .elseBranch do keyword .kwElse "else"; block) :=
    Ensures.named (ensures_bind fun _ => h) _
  refine Ensures.named ((ensures_branch limit h).bind fun first hfirst =>
    ((ensures_branch limit h).many limit).bind fun others hothers =>
      helse.optional.bind fun otherwise ho => ensures_bind fun _ => ensures_pure ?_) _
  exact isStatementInPlace_rule (List.forall_mem_cons.mpr ⟨hfirst, hothers⟩) ho

theorem ensures_statementOver (h : Ensures IsBlockInPlace block) :
    Ensures IsStatementInPlace (statementOver limit block) := by
  have hdirective : ∀ p : Parser SpelledDirective,
      Ensures IsStatementInPlace (StatementOf.directive <$> p) :=
    fun p => ensures_bind fun _ => ensures_pure (by simp [IsStatementInPlace, StatementOf.expressions])
  have hassignment : Ensures IsStatementInPlace (assignment limit) :=
    Ensures.named (ensures_bind fun _ => ensures_bind fun _ => ensures_bind fun _ =>
      (ensures_expression limit).bind fun value hvalue =>
        ensures_pure (show IsStatementInPlace (.assign _ _ value) from hvalue)) _
  have hcall : Ensures IsStatementInPlace
      ((fun c => .call c.1 c.2.1 c.2.2) <$> call limit (expression limit)) :=
    (ensures_call limit (ensures_expression limit)).map fun _ hargs =>
      allInPlace_iff.mpr ⟨trivial, hargs⟩
  have hany := (ensures_rule limit h).orElse ((hdirective (inlineDirective limit)).orElse
    ((hdirective (headerDirective limit)).orElse (hassignment.orElse hcall)))
  exact hany.bind fun _ hs => ensures_bind fun _ => ensures_pure hs

theorem ensures_statement (depth : Nat) : Ensures IsStatementInPlace (statement depth) := by
  induction depth with
  | zero =>
    rintro c s c' ⟨⟩
  | succ depth ih =>
    have hblock : Ensures IsBlockInPlace (named .block (many depth (statement depth))) :=
      fun _ _ _ h => isBlockInPlace_of_forall ((ih.many depth).named _ h)
    exact ensures_statementOver depth hblock

theorem ensures_program :
    Ensures (fun file => IsBlockInPlace file.statements) (program limit) := by
  refine Ensures.named (ensures_bind fun _ => ensures_bind fun _ =>
    (((ensures_statement limit).many limit).named _).bind fun ss hss =>
      ensures_bind fun _ => ensures_pure ?_) _
  exact isBlockInPlace_of_forall hss

end Statements

end Grammar

/-- Decoding keeps places. -/
theorem SpelledExpr.position_of_decode [RegexEngine] {e : SpelledExpr} {e' : Expr}
    (h : e.decode = .ok e') :
    e'.position = e.position := by
  cases e <;> simp only [SpelledExpr.decode, Result.bind_eq_ok, Result.pure_eq_ok] at h <;>
    grind [ExprOf.position]

theorem SpelledExpr.isInPlace_of_decode [RegexEngine] {e : SpelledExpr} {e' : Expr}
    (h : e.decode = .ok e') (he : e.IsInPlace) : e'.IsInPlace := by
  cases e with
  | barePattern pos needle =>
    simp only [SpelledExpr.decode, Result.bind_eq_ok, Result.pure_eq_ok] at h
    obtain ⟨needle', hneedle, rfl⟩ := h
    exact (SpelledExpr.position_of_decode hneedle).trans he
  | _ =>
    simp only [SpelledExpr.decode, Result.bind_eq_ok, Result.pure_eq_ok] at h
    grind [ExprOf.IsInPlace]

/-- Every bare pattern of a file stands where its pattern stands. -/
theorem SourceFile.isInPlace_of_read [RegexEngine] {source text : String} {file : SourceFile}
    (h : SourceFile.read source text = .ok file) :
    ∀ x ∈ StatementOf.blockExpressions file.statements, x.IsInPlace := by
  simp only [SourceFile.read_eq, SpelledFile.decode, Result.bind_eq_ok, Result.pure_eq_ok] at h
  obtain ⟨spelled, hspelled, _, -, statements, hstatements, rfl⟩ := h
  have hinPlace : Grammar.IsBlockInPlace spelled.statements := by
    obtain ⟨_, houtcome⟩ := Parser.result_eq_ok.mp hspelled
    exact Grammar.ensures_program _ houtcome
  intro x' hx'
  obtain ⟨x, hx, hdecode⟩ := SpelledStatement.exists_node_of_decodeBlock hstatements x' hx'
  exact SpelledExpr.isInPlace_of_decode hdecode (hinPlace x hx)

end RecordScript
