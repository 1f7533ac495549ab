import RecordScript.Proofs.Grammar.Program
import RecordScript.Proofs.Printing.Token

/-!
# What is read is well-formed

Every file that is read from a text is well-formed: the grammar gives only trees that can be printed
and read again. Level by level of the grammar, and then by induction over its nesting.
-/

namespace RecordScript

namespace Reading

variable {α β : Type} {P : α → Prop} {Q : β → Prop} {R S : Reading α} {f : α → Reading β}

/-- Whatever is read has the property. -/
def Ensures (P : α → Prop) (R : Reading α) : Prop := ∀ ⦃cs a rest⦄, R cs a rest → P a

theorem ensures_pure {a : α} (h : P a) : Ensures P (pure a) := by
  rintro cs b rest ⟨rfl, rfl⟩
  exact h

theorem Ensures.bind (hR : Ensures P R) (hf : ∀ a, P a → Ensures Q (f a)) :
    Ensures Q (R >>= f) := by
  rintro cs b rest ⟨a, mid, ha, hb⟩
  exact hf a (hR ha) hb

/-- A part of which nothing is needed. -/
theorem ensures_bind (hf : ∀ a, Ensures Q (f a)) : Ensures Q (R >>= f) := by
  rintro cs b rest ⟨a, mid, ha, hb⟩
  exact hf a hb

theorem Ensures.map {g : α → β} (hR : Ensures P R) (hg : ∀ a, P a → Q (g a)) :
    Ensures Q (g <$> R) :=
  hR.bind fun a ha => ensures_pure (hg a ha)

theorem Ensures.orElse (hR : Ensures P R) (hS : Ensures P S) : Ensures P (R <|> S) :=
  fun _ _ _ h => Or.elim h (@hR _ _ _) (@hS _ _ _)

theorem Ensures.optional (h : Ensures P R) :
    Ensures (fun o => ∀ a ∈ o, P a) (optional R) := by
  have hsome : Ensures (fun o => ∀ a ∈ o, P a) (some <$> R) := h.map (by simp)
  exact hsome.orElse (ensures_pure (by simp))

theorem Ensures.star (h : Ensures P R) : Ensures (fun as => ∀ a ∈ as, P a) (star R) := by
  intro cs as rest has
  induction has with
  | nil => simp
  | cons first others ih => exact List.forall_mem_cons.mpr ⟨h first, ih⟩

theorem ensures_anyDepth {R : Nat → Reading α} (h : ∀ depth, Ensures P (R depth)) :
    Ensures P (anyDepth R) := by
  rintro cs a rest ⟨depth, ha⟩
  exact h depth ha

end Reading

variable [RegexEngine]

/-! ### Expressions -/

/-- What the spelled expression stands for is well-formed where a value is meant. -/
def SpelledExpr.IsSound (s : SpelledExpr) : Prop :=
  ∀ ⦃e⦄, SpelledExpr.decode s = .ok e → Expr.IsWellFormed false e

/-- What the spelled expression stands for is well-formed where a truth value is meant. -/
def SpelledExpr.IsSoundCondition (s : SpelledExpr) : Prop :=
  ∀ ⦃e⦄, SpelledExpr.decode s = .ok e → Expr.IsWellFormed true e

namespace SpelledExpr

theorem isSound_unary {pos : Position} {op : UnaryOp} (hop : op ≠ .not) {s : SpelledExpr}
    (h : IsSound s) : IsSound (.unary pos op s) := by
  intro e he
  simp only [decode, Result.bind_eq_ok, Result.pure_eq_ok] at he
  obtain ⟨e', he', rfl⟩ := he
  rw [Expr.IsWellFormed, decide_eq_false hop]
  exact h he'

theorem isSound_not {pos : Position} {s : SpelledExpr} (h : IsSoundCondition s) :
    IsSound (.unary pos .not s) := by
  intro e he
  simp only [decode, Result.bind_eq_ok, Result.pure_eq_ok] at he
  obtain ⟨e', he', rfl⟩ := he
  exact h he'

theorem isSound_binary {pos : Position} {op : BinaryOp} {l r : SpelledExpr} (hl : IsSound l)
    (hr : IsSound r) : IsSound (.binary pos op l r) := by
  intro e he
  simp only [decode, Result.bind_eq_ok, Result.pure_eq_ok] at he
  obtain ⟨l', hl', r', hr', rfl⟩ := he
  exact ⟨hl hl', hr hr'⟩

theorem isSound_logical {pos : Position} {op : LogicalOp} {l r : SpelledExpr}
    (hl : IsSoundCondition l) (hr : IsSoundCondition r) : IsSound (.logical pos op l r) := by
  intro e he
  simp only [decode, Result.bind_eq_ok, Result.pure_eq_ok] at he
  obtain ⟨l', hl', r', hr', rfl⟩ := he
  exact ⟨hl hl', hr hr'⟩

theorem isSound_compareTree (op : Option CompareOp) {l r : SpelledExpr} (hl : IsSound l)
    (hr : IsSound r) : IsSound (Language.compareTree op l r) := by
  intro e he
  cases op <;> simp only [Language.compareTree, decode, Result.bind_eq_ok, Result.pure_eq_ok] at he <;>
    obtain ⟨l', hl', r', hr', rfl⟩ := he
  · exact ⟨hl hl', hr hr'⟩
  · exact ⟨hl hl', hr hr'⟩

theorem isSound_call {pos : Position} {function : String} {args : List SpelledExpr}
    (hfunction : IsBareName function) (hargs : ∀ arg ∈ args, IsSound arg) :
    IsSound (.call pos function args) := by
  intro e he
  simp only [decode, Result.bind_eq_ok, Result.pure_eq_ok, decodeArgs_eq] at he
  obtain ⟨args', hargs', rfl⟩ := he
  refine ⟨hfunction, argsWellFormed_iff.mpr fun arg' harg' => ?_⟩
  obtain ⟨arg, harg, hdecode⟩ := Result.exists_mem_of_mapM hargs' harg'
  exact hargs arg harg hdecode

theorem isSound_field (pos : Position) (spelling : NameSpelling) :
    IsSound (.field pos spelling) := by
  intro e he
  simp only [decode, Result.bind_eq_ok, Result.pure_eq_ok] at he
  obtain ⟨name, -, rfl⟩ := he
  exact trivial

theorem isSound_literal {pos : Position} {spelling : LiteralSpelling}
    (h : ∀ ⦃value⦄, spelling.decode = .ok value → value.IsSpellable) :
    IsSound (.literal pos spelling) := by
  intro e he
  simp only [decode, Result.bind_eq_ok, Result.pure_eq_ok, problemAt_eq_ok] at he
  obtain ⟨value, hvalue, rfl⟩ := he
  exact ⟨h hvalue, by simp⟩

/-- Only literals and bare patterns care whether a truth value is meant. -/
theorem isWellFormed_true {e : Expr} (h : Expr.IsWellFormed false e)
    (hliteral : ∀ pos value, e ≠ .literal pos value) : Expr.IsWellFormed true e := by
  cases e with
  | literal pos value => exact absurd rfl (hliteral pos value)
  | barePattern pos needle =>
    cases needle with
    | literal pos' value => cases h.1
    | _ => exact h.elim
  | _ => exact h

/-- What is well-formed as a value is well-formed as a condition if it is taken as one. -/
theorem IsSound.asCondition {s : SpelledExpr} (h : IsSound s) : IsSoundCondition s.asCondition := by
  intro e he
  cases s with
  | literal pos spelling =>
    by_cases hpattern : spelling.isPattern = true
    · simp only [SpelledExpr.asCondition, hpattern, if_true, decode, Result.bind_eq_ok,
        Result.pure_eq_ok, problemAt_eq_ok] at he
      obtain ⟨_, ⟨value, hvalue, rfl⟩, rfl⟩ := he
      have hliteral : decode (.literal pos spelling) = .ok (.literal pos value) := by
        simp [decode, hvalue]
      exact ⟨rfl, (h hliteral).1, by rw [← LiteralSpelling.isPattern_of_decode hvalue, hpattern]⟩
    · simp only [SpelledExpr.asCondition, hpattern, Bool.false_eq_true, if_false] at he
      have hwell := h he
      simp only [decode, Result.bind_eq_ok, Result.pure_eq_ok, problemAt_eq_ok] at he
      obtain ⟨value, hvalue, rfl⟩ := he
      rw [LiteralSpelling.isPattern_of_decode hvalue] at hpattern
      exact ⟨hwell.1, fun hboth => hpattern hboth.2⟩
  | _ =>
    refine isWellFormed_true (h he) fun pos value heq => ?_
    simp only [SpelledExpr.asCondition, decode, Result.bind_eq_ok, Result.pure_eq_ok] at he
    grind

end SpelledExpr

namespace Language

open Reading SpelledExpr

section Levels

variable {E : Reading SpelledExpr}

omit [RegexEngine] in
theorem ensures_bareName : Ensures (fun taken => IsBareName (String.ofList taken)) bareName := by
  rintro cs taken rest ⟨behind, hscan, -⟩
  rw [Token.name_eq, Token.wordWith_eq_some] at hscan
  obtain ⟨hword, hkeyword⟩ := hscan
  obtain ⟨c, cs', -, hc, rfl, -⟩ := Token.word_eq_some.mp hword
  refine ⟨⟨c, cs'.takeWhile Token.isWordChar, String.toList_ofList, hc, List.all_takeWhile⟩, ?_⟩
  rw [← isKeyword_eq_true_iff, String.toList_ofList]
  simpa using hkeyword

theorem ensures_fieldRead : Ensures IsSound fieldRead := by
  intro cs s rest h
  obtain ⟨spelling, -, rfl⟩ := map_iff.mp h
  exact isSound_field _ _

theorem ensures_anyLiteral : Ensures IsSound anyLiteral := by
  rintro cs s rest (h | h | h | h) <;> obtain ⟨taken, ⟨behind, hscan, -⟩, rfl⟩ := map_iff.mp h
  · refine isSound_literal fun value hvalue => ?_
    cases hvalue
    exact trivial
  · refine isSound_literal fun value hvalue => ?_
    obtain ⟨n, hread, hn⟩ := readNumeral_of_number hscan
    rw [LiteralSpelling.decode, hread] at hvalue
    cases hvalue
    exact hn
  · refine isSound_literal fun value hvalue => ?_
    obtain ⟨cs, -, rfl⟩ := Result.map_eq_ok.mp hvalue
    exact trivial
  · refine isSound_literal fun value hvalue => ?_
    obtain ⟨body, hbody, rfl, -⟩ := (Token.delimited_eq_some (by decide)).mp hscan
    simp only [inner_delimited, LiteralSpelling.decode] at hvalue
    split at hvalue
    · rename_i p hp
      cases hvalue
      obtain ⟨hsource, hcase⟩ := Pattern.ofSource_eq_ok.mp hp
      exact ⟨hcase, body, hbody, by rw [hsource, String.toList_ofList]⟩
    · cases hvalue

theorem ensures_separated (hE : Ensures IsSound E) :
    Ensures (fun ss => ∀ s ∈ ss, IsSound s) (separated E) := by
  have hcomma : Ensures IsSound (do let _ ← sign ","; E) := ensures_bind fun _ => hE
  refine hE.bind fun first hfirst => hcomma.star.bind fun others hothers => ?_
  exact ensures_pure (List.forall_mem_cons.mpr ⟨hfirst, hothers⟩)

theorem ensures_arguments (hE : Ensures IsSound E) :
    Ensures (fun ss => ∀ s ∈ ss, IsSound s) (arguments E) := by
  refine ensures_bind fun _ => (ensures_separated hE).optional.bind fun args hargs =>
    ensures_bind fun _ => ensures_pure ?_
  cases args with
  | none => simp
  | some args => exact hargs args rfl

theorem ensures_call (hE : Ensures IsSound E) :
    Ensures (fun c => IsBareName c.1 ∧ ∀ s ∈ c.2, IsSound s) (call E) :=
  ensures_bareName.bind fun _ hname => (ensures_arguments hE).bind fun _ hargs =>
    ensures_pure ⟨hname, hargs⟩

theorem ensures_primary (hE : Ensures IsSound E) : Ensures IsSound (primary E) := by
  have hparenthesized : Ensures IsSound (parenthesized E) :=
    ensures_bind fun _ => hE.bind fun _ he => ensures_bind fun _ => ensures_pure he
  refine ensures_anyLiteral.orElse (Ensures.orElse ?_ (ensures_fieldRead.orElse hparenthesized))
  exact (ensures_call hE).map fun _ hc => isSound_call hc.1 hc.2

theorem ensures_unary (hE : Ensures IsSound E) : Ensures IsSound (unary E) := by
  have hsign : Ensures (fun op => op ≠ UnaryOp.not)
      (operator ["+", "-"] fun taken => if taken = ['-'] then UnaryOp.minus else .plus) := by
    intro cs op rest h
    obtain ⟨taken, -, rfl⟩ := map_iff.mp h
    split <;> simp
  refine hsign.star.bind fun ops hops => (ensures_primary hE).bind fun s hs => ensures_pure ?_
  induction ops with
  | nil => exact hs
  | cons op ops ih =>
    obtain ⟨hop, hops⟩ := List.forall_mem_cons.mp hops
    exact isSound_unary hop (ih hops)

theorem ensures_binaryLevel {signs : List String} {operand : Reading SpelledExpr}
    (h : Ensures IsSound operand) : Ensures IsSound (binaryLevel signs operand) := by
  have hitem : Ensures (fun item => IsSound item.2) (do
      let op ← operator signs Grammar.binaryOp
      let right ← operand
      return (op, right)) :=
    ensures_bind fun _ => h.bind fun _ hright => ensures_pure hright
  refine h.bind fun first hfirst => hitem.star.bind fun others hothers => ensures_pure ?_
  induction others generalizing first with
  | nil => exact hfirst
  | cons item others ih =>
    obtain ⟨hitem, hothers⟩ := List.forall_mem_cons.mp hothers
    exact ih _ (isSound_binary hfirst hitem) hothers

theorem ensures_sum (hE : Ensures IsSound E) : Ensures IsSound (sum E) :=
  ensures_binaryLevel (ensures_binaryLevel (ensures_unary hE))

theorem ensures_comparison (hE : Ensures IsSound E) : Ensures IsSound (comparison E) := by
  have hother : Ensures (fun other => IsSound other.2) (do
      let taken ← token (Token.anySign Token.compareSigns)
      let right ← sum E
      return (Grammar.compareOp? taken, right)) :=
    ensures_bind fun _ => (ensures_sum hE).bind fun _ hright => ensures_pure hright
  refine (ensures_sum hE).bind fun left hleft => hother.optional.bind fun other ho => ?_
  rcases other with _ | ⟨op, right⟩
  · exact ensures_pure hleft
  · exact ensures_pure (isSound_compareTree op hleft (ho _ rfl))

theorem ensures_negation (hE : Ensures IsSound E) : Ensures IsSound (negation E) := by
  refine ensures_bind fun nots => (ensures_comparison hE).bind fun s hs => ensures_pure ?_
  induction nots with
  | nil => exact hs
  | cons not nots ih => exact isSound_not ih.asCondition

/-- Operands that are joined by a logical operator stand where truth values are meant. -/
theorem isSound_joinLogical (op : LogicalOp) {first : SpelledExpr} {others : List SpelledExpr}
    (hfirst : IsSound first) (hothers : ∀ s ∈ others, IsSound s) :
    IsSound (Grammar.joinLogical op default first others) :=
  Grammar.joinLogical_induction hfirst hothers fun hl hr =>
    isSound_logical hl.asCondition hr.asCondition

theorem ensures_conjunction (hE : Ensures IsSound E) : Ensures IsSound (conjunction E) := by
  have hother : Ensures IsSound (do let _ ← sign "&"; negation E) :=
    ensures_bind fun _ => ensures_negation hE
  exact (ensures_negation hE).bind fun first hfirst => hother.star.bind fun others hothers =>
    ensures_pure (isSound_joinLogical .and hfirst hothers)

theorem ensures_alternatives (hE : Ensures IsSound E) : Ensures IsSound (alternatives E) := by
  have hother : Ensures IsSound (do let _ ← sign "|"; conjunction E) :=
    ensures_bind fun _ => ensures_conjunction hE
  exact ensures_bind fun _ => (ensures_conjunction hE).bind fun first hfirst =>
    hother.star.bind fun others hothers => ensures_pure (isSound_joinLogical .or hfirst hothers)

/-- Every expression of the language stands for a well-formed one. -/
theorem ensures_expression (depth : Nat) : Ensures IsSound (expression depth) := by
  induction depth with
  | zero => exact fun _ _ _ h => h.elim
  | succ depth ih => exact ensures_alternatives ih

end Levels

end Language

/-! ### Statements -/

/-- What the spelled directive stands for is well-formed. -/
def SpelledDirective.IsSound (d : SpelledDirective) : Prop :=
  ∀ ⦃d'⦄, SpelledDirective.decode d = .ok d' → Directive.IsWellFormed d'

/-- What the spelled statement stands for is well-formed. -/
def SpelledStatement.IsSound (s : SpelledStatement) : Prop :=
  ∀ ⦃s'⦄, SpelledStatement.decode s = .ok s' → Statement.IsWellFormed s'

/-- What the spelled branch stands for is well-formed. -/
def SpelledBranch.IsSound (b : SpelledBranch) : Prop :=
  ∀ ⦃b'⦄, SpelledBranch.decode b = .ok b' →
    Expr.IsWellFormed true b'.condition ∧ BlockWellFormed b'.body

theorem blockWellFormed_of_decode {ss : List SpelledStatement} (h : ∀ s ∈ ss, s.IsSound)
    {ss' : List Statement} (hdecode : decodeBlock ss = .ok ss') : BlockWellFormed ss' := by
  rw [decodeBlock_eq] at hdecode
  refine blockWellFormed_iff.mpr fun s' hs' => ?_
  obtain ⟨s, hs, hs'⟩ := Result.exists_mem_of_mapM hdecode hs'
  exact h s hs hs'

namespace Language

open Reading

section Statements

variable {E : Reading SpelledExpr} {B : Reading (List SpelledStatement)}

theorem ensures_directive (hE : Ensures SpelledExpr.IsSound E) (mark : String) (inline : Bool) :
    Ensures (fun d => d.inline = inline ∧ d.IsSound) (directive E mark inline) := by
  refine ensures_bind fun _ => ensures_bareName.bind fun name hname =>
    (ensures_arguments hE).optional.bind fun args hargs => ensures_pure ⟨rfl, ?_⟩
  intro d' hd'
  simp only [SpelledDirective.decode, Result.bind_eq_ok, Result.pure_eq_ok, decodeArgs_eq] at hd'
  obtain ⟨args', hargs', rfl⟩ := hd'
  refine ⟨hname, argsWellFormed_iff.mpr fun arg' harg' => ?_⟩
  obtain ⟨arg, harg, hdecode⟩ := Result.exists_mem_of_mapM hargs' harg'
  cases args with
  | none => cases harg
  | some args => exact hargs args rfl arg harg hdecode

theorem ensures_assignment (hE : Ensures SpelledExpr.IsSound E) :
    Ensures SpelledStatement.IsSound (assignment E) := by
  refine ensures_bind fun field => ensures_bind fun _ => hE.bind fun value hvalue =>
    ensures_pure ?_
  intro s' hs'
  simp only [SpelledStatement.decode, Result.bind_eq_ok, Result.pure_eq_ok] at hs'
  obtain ⟨name, -, value', hvalue', rfl⟩ := hs'
  exact hvalue hvalue'

theorem ensures_branch (hE : Ensures SpelledExpr.IsSound E)
    (hB : Ensures (fun ss => ∀ s ∈ ss, s.IsSound) B) (name : String) :
    Ensures SpelledBranch.IsSound (branch E name B) := by
  refine ensures_bind fun _ => hE.bind fun condition hcondition => ensures_bind fun _ =>
    hB.bind fun body hbody => ensures_pure ?_
  intro b' hb'
  simp only [SpelledBranch.decode, BranchOf.condition, BranchOf.body, Result.bind_eq_ok,
    Result.pure_eq_ok] at hb'
  obtain ⟨condition', hcondition', body', hbody', rfl⟩ := hb'
  exact ⟨hcondition.asCondition hcondition', blockWellFormed_of_decode hbody hbody'⟩

theorem ensures_rule (hE : Ensures SpelledExpr.IsSound E)
    (hB : Ensures (fun ss => ∀ s ∈ ss, s.IsSound) B) :
    Ensures SpelledStatement.IsSound (rule E B) := by
  have helse : Ensures (fun ss => ∀ s ∈ ss, s.IsSound) (do keyword "else"; B) :=
    ensures_bind fun _ => hB
  refine (ensures_branch hE hB "if").bind fun first hfirst =>
    (ensures_branch hE hB "elif").star.bind fun others hothers =>
      helse.optional.bind fun otherwise hotherwise => ensures_bind fun _ => ensures_pure ?_
  have hbranches : ∀ branches', decodeBranches (first :: others) = .ok branches' →
      branches' ≠ [] ∧ ∀ b ∈ branches', Expr.IsWellFormed true b.condition ∧
        BlockWellFormed b.body := by
    intro branches' hdecode
    rw [decodeBranches_eq] at hdecode
    constructor
    · rintro rfl
      cases Result.mapM_eq_ok.mp hdecode
    · intro b' hb'
      obtain ⟨b, hb, hdecode⟩ := Result.exists_mem_of_mapM hdecode hb'
      exact List.forall_mem_cons.mpr ⟨hfirst, hothers⟩ b hb hdecode
  intro s' hs'
  rw [SpelledStatement.decode, Result.bind_eq_ok] at hs'
  obtain ⟨branches', hdecode, hs'⟩ := hs'
  obtain ⟨hne, hwell⟩ := hbranches branches' hdecode
  cases otherwise with
  | none =>
    obtain rfl := Result.pure_eq_ok.mp hs'
    exact isWellFormed_rule_iff.mpr ⟨hne, hwell, by simp⟩
  | some body =>
    simp only [Result.bind_eq_ok, Result.pure_eq_ok] at hs'
    obtain ⟨body', hbody', rfl⟩ := hs'
    refine isWellFormed_rule_iff.mpr ⟨hne, hwell, ?_⟩
    rintro _ ⟨⟩
    exact blockWellFormed_of_decode (hotherwise _ rfl) hbody'

theorem ensures_statement (depth : Nat) : Ensures SpelledStatement.IsSound (statement depth) := by
  induction depth with
  | zero => exact fun _ _ _ h => h.elim
  | succ depth ih =>
    have hE := ensures_expression depth
    have hdirective : ∀ mark inline, Ensures SpelledStatement.IsSound
        (.directive <$> directive (expression depth) mark inline) := by
      intro mark inline
      refine (ensures_directive hE mark inline).map fun d hd s' hs' => ?_
      simp only [SpelledStatement.decode, Result.bind_eq_ok, Result.pure_eq_ok] at hs'
      obtain ⟨d', hd', rfl⟩ := hs'
      exact hd.2 hd'
    have hcall : Ensures SpelledStatement.IsSound
        ((fun c => .call default c.1 c.2) <$> call (expression depth)) := by
      refine (ensures_call hE).map fun c hc s' hs' => ?_
      simp only [SpelledStatement.decode, Result.bind_eq_ok, Result.pure_eq_ok] at hs'
      obtain ⟨args', hargs', rfl⟩ := hs'
      have hdecode : SpelledExpr.decode (.call default c.1 c.2) = .ok (.call default c.1 args') := by
        simp [SpelledExpr.decode, hargs']
      exact SpelledExpr.isSound_call hc.1 hc.2 hdecode
    refine Ensures.bind ?_ fun s hs => ensures_bind fun _ => ensures_pure hs
    exact (ensures_rule hE ih.star).orElse ((hdirective "@@" true).orElse
      ((hdirective "@" false).orElse ((ensures_assignment hE).orElse hcall)))

end Statements

end Language

/-! ### Positions -/

/-- Whether an expression can be printed does not depend on its positions. -/
theorem Expr.isWellFormed_unplaced {e : Expr} {truth : Bool} :
    Expr.IsWellFormed truth e.unplaced ↔ Expr.IsWellFormed truth e := by
  induction e using ExprOf.inductionOn generalizing truth with
  | literal pos value => rfl
  | field pos name => rfl
  | call pos function args ih =>
    rw [ExprOf.unplaced, unplacedArgs_eq, IsWellFormed, IsWellFormed, argsWellFormed_iff,
      argsWellFormed_iff, List.forall_mem_map]
    exact and_congr_right fun _ => forall₂_congr fun arg harg => ih arg harg
  | unary pos op operand ih => exact ih
  | binary pos op left right ihl ihr => exact and_congr ihl ihr
  | logical pos op left right ihl ihr => exact and_congr ihl ihr
  | comparison pos op left right ihl ihr => exact and_congr ihl ihr
  | pattern pos left right ihl ihr => exact and_congr ihl ihr
  | barePattern pos needle _ => cases needle <;> rfl

theorem argsWellFormed_unplaced {args : List Expr} :
    ArgsWellFormed (unplacedArgs args) ↔ ArgsWellFormed args := by
  rw [unplacedArgs_eq, argsWellFormed_iff, argsWellFormed_iff, List.forall_mem_map]
  exact forall₂_congr fun arg _ => Expr.isWellFormed_unplaced

theorem Directive.isWellFormed_unplaced {d : Directive} :
    Directive.IsWellFormed d.unplaced ↔ Directive.IsWellFormed d :=
  and_congr_right fun _ => argsWellFormed_unplaced

theorem blockWellFormed_unplaced_of_forall {ss : List Statement}
    (h : ∀ s ∈ ss, (Statement.IsWellFormed s.unplaced ↔ Statement.IsWellFormed s)) :
    BlockWellFormed (unplacedBlock ss) ↔ BlockWellFormed ss := by
  rw [unplacedBlock_eq, blockWellFormed_iff, blockWellFormed_iff, List.forall_mem_map]
  exact forall₂_congr h

theorem Statement.isWellFormed_unplaced {s : Statement} :
    Statement.IsWellFormed s.unplaced ↔ Statement.IsWellFormed s := by
  induction s using StatementOf.inductionOn with
  | assign pos field value => exact Expr.isWellFormed_unplaced
  | call pos function args => exact and_congr_right fun _ => argsWellFormed_unplaced
  | directive d => exact Directive.isWellFormed_unplaced
  | rule branches otherwise ihb iho =>
    have hbranches : (∀ b ∈ branches.map BranchOf.unplaced,
        Expr.IsWellFormed true b.condition ∧ BlockWellFormed b.body) ↔
          ∀ b ∈ branches, Expr.IsWellFormed true b.condition ∧ BlockWellFormed b.body := by
      rw [List.forall_mem_map]
      exact forall₂_congr fun b hb => and_congr Expr.isWellFormed_unplaced
        (blockWellFormed_unplaced_of_forall (ihb b hb))
    cases otherwise with
    | none =>
      rw [StatementOf.unplaced, unplacedBranches_eq, isWellFormed_rule_iff, isWellFormed_rule_iff,
        hbranches]
      simp
    | some body =>
      have hbody := blockWellFormed_unplaced_of_forall (iho body rfl)
      rw [StatementOf.unplaced, unplacedBranches_eq, isWellFormed_rule_iff, isWellFormed_rule_iff,
        hbranches]
      simp [hbody]

theorem SourceFile.isBehindHeader_unplaced {f : SourceFile} :
    f.unplaced.IsBehindHeader ↔ f.IsBehindHeader := by
  obtain ⟨header, _ | ⟨s, ss⟩⟩ := f
  · simp [SourceFileOf.IsBehindHeader, SourceFileOf.unplaced]
  · cases s with
    | directive d => simp [SourceFileOf.IsBehindHeader, SourceFileOf.unplaced, StatementOf.unplaced,
        DirectiveOf.unplaced]
    | rule branches otherwise => cases otherwise <;>
        simp [SourceFileOf.IsBehindHeader, SourceFileOf.unplaced, StatementOf.unplaced]
    | _ => simp [SourceFileOf.IsBehindHeader, SourceFileOf.unplaced, StatementOf.unplaced]

theorem SourceFile.isWellFormed_unplaced {f : SourceFile} :
    SourceFile.IsWellFormed f.unplaced ↔ SourceFile.IsWellFormed f := by
  have hblock : BlockWellFormed (unplacedBlock f.statements) ↔ BlockWellFormed f.statements :=
    blockWellFormed_unplaced_of_forall fun _ _ => Statement.isWellFormed_unplaced
  rw [unplacedBlock_eq] at hblock
  refine and_congr ?_ (and_congr hblock SourceFile.isBehindHeader_unplaced)
  rw [SourceFileOf.unplaced, List.forall_mem_map]
  exact forall₂_congr fun d _ => and_congr_right fun _ => Directive.isWellFormed_unplaced

/-! ### Files -/

theorem SpelledDirective.inline_of_decode {d : SpelledDirective} {d' : Directive}
    (h : SpelledDirective.decode d = .ok d') : d'.inline = d.inline := by
  simp only [SpelledDirective.decode, Result.bind_eq_ok, Result.pure_eq_ok] at h
  obtain ⟨args, -, rfl⟩ := h
  rfl

/-- Only directives stand for directives. -/
theorem SpelledStatement.exists_directive_of_decode {s : SpelledStatement} {d' : Directive}
    (h : SpelledStatement.decode s = .ok (.directive d')) :
    ∃ d, s = .directive d ∧ SpelledDirective.decode d = .ok d' := by
  cases s with
  | directive d =>
    simp only [decode, Result.bind_eq_ok, Result.pure_eq_ok] at h
    obtain ⟨d'', hd, heq⟩ := h
    cases heq
    exact ⟨d, rfl, hd⟩
  | rule branches otherwise =>
    cases otherwise with
    | none =>
      simp only [decode, Result.bind_eq_ok, Result.pure_eq_ok] at h
      obtain ⟨_, -, h⟩ := h
      cases h
    | some body =>
      simp only [decode, Result.bind_eq_ok, Result.pure_eq_ok] at h
      obtain ⟨_, -, _, -, h⟩ := h
      cases h
  | assign pos field value =>
    simp only [decode, Result.bind_eq_ok, Result.pure_eq_ok] at h
    obtain ⟨_, -, _, -, h⟩ := h
    cases h
  | call pos function args =>
    simp only [decode, Result.bind_eq_ok, Result.pure_eq_ok] at h
    obtain ⟨_, -, h⟩ := h
    cases h

/-- Decoding keeps the place where the header ends. -/
theorem isBehindHeader_iff_of_decode {spelled : SpelledFile} {f : SourceFile}
    (hdecode : SpelledFile.decode spelled = .ok f) : spelled.IsBehindHeader ↔ f.IsBehindHeader := by
  obtain ⟨header, ss⟩ := spelled
  simp only [SpelledFile.decode, Result.bind_eq_ok, Result.pure_eq_ok, decodeBlock_eq] at hdecode
  obtain ⟨header', -, ss', hstatements, rfl⟩ := hdecode
  cases Result.mapM_eq_ok.mp hstatements with
  | nil => simp [SourceFileOf.IsBehindHeader]
  | @cons s s' ss ss' hs hss =>
    constructor
    · intro h d' hd'
      obtain rfl : s' = .directive d' := by simpa using hd'
      obtain ⟨d, rfl, hd⟩ := SpelledStatement.exists_directive_of_decode hs
      rw [SpelledDirective.inline_of_decode hd]
      exact h d rfl
    · intro h d hd
      obtain rfl : s = .directive d := by simpa using hd
      simp only [SpelledStatement.decode, Result.bind_eq_ok, Result.pure_eq_ok] at hs
      obtain ⟨d', hd', rfl⟩ := hs
      rw [← SpelledDirective.inline_of_decode hd']
      exact h d' rfl

/-- Every file that is read is well-formed. -/
theorem SourceFile.isWellFormed_of_read {source text : String} {f : SourceFile}
    (h : SourceFile.read source text = .ok f) : f.IsWellFormed := by
  obtain ⟨spelled, ⟨mid, hheader, hstatements, hbehind⟩, hdecode⟩ :=
    SourceFile.exists_read_iff.mp ⟨f, h, rfl⟩
  have hitem : ∀ depth, Reading.Ensures (fun d => d.inline = false ∧ d.IsSound)
      (Language.headerItem depth) := fun depth =>
    (Language.ensures_directive (Language.ensures_expression depth) "@" false).bind fun _ hd =>
      Reading.ensures_bind fun _ => Reading.ensures_pure hd
  have hheaderSound := (Reading.ensures_anyDepth hitem).star hheader
  have hstatementsSound := (Reading.ensures_anyDepth Language.ensures_statement).star hstatements
  rw [← SourceFile.isWellFormed_unplaced]
  refine ⟨?_, ?_, (isBehindHeader_iff_of_decode hdecode).mp hbehind⟩
  · simp only [SpelledFile.decode, Result.bind_eq_ok, Result.pure_eq_ok] at hdecode
    obtain ⟨header, hdecode, statements, -, hfile⟩ := hdecode
    rw [← hfile]
    intro d' hd'
    obtain ⟨d, hd, hdecode⟩ := Result.exists_mem_of_mapM hdecode hd'
    obtain ⟨hinline, hsound⟩ := hheaderSound d hd
    exact ⟨(SpelledDirective.inline_of_decode hdecode).trans hinline, hsound hdecode⟩
  · simp only [SpelledFile.decode, Result.bind_eq_ok, Result.pure_eq_ok] at hdecode
    obtain ⟨header, -, statements, hdecode, hfile⟩ := hdecode
    rw [← hfile]
    exact blockWellFormed_of_decode hstatementsSound hdecode

end RecordScript
