import RecordScript.Proofs.Grammar.Language
import RecordScript.Proofs.Grammar.Operators
import RecordScript.Proofs.Grammar.Parser

/-!
# What is read belongs to the language

Every parser of the grammar is sound for the reading of the same construct. The proofs follow the
parsers step by step: choices and repetitions only lose what decided them, and the trees are the
same up to positions.
-/

open RecordScript.Parser (Sound sound_pure sound_here_bind sound_token)

namespace RecordScript

namespace Grammar

theorem unplaced_foldl_binary (others : List (Position × BinaryOp × SpelledExpr))
    (first : SpelledExpr) :
    (others.foldl (fun left (pos, op, right) => .binary pos op left right) first).unplaced =
      (others.map fun (_, op, right) => (op, right.unplaced)).foldl
        (fun left (op, right) => .binary default op left right) first.unplaced := by
  induction others generalizing first with
  | nil => rfl
  | cons other others ih => exact ih _

/-! ### Expressions -/

/-- The name and the arguments of a call, without positions. -/
def viewCall : Position × String × List SpelledExpr → String × List SpelledExpr :=
  fun (_, function, args) => (function, args.map ExprOf.unplaced)

theorem sound_sign (s : String) : Sound id (sign s) (Language.sign s) := sound_token _

theorem sound_bareName : Sound id bareName Language.bareName := (sound_token _).named _

theorem sound_fieldName : Sound id fieldName Language.fieldName := by
  have hbare : Sound id (NameSpelling.bare <$> bareName) (.bare <$> Language.bareName) :=
    sound_bareName.map fun _ => rfl
  refine hbare.orElse (Sound.map ((sound_token Token.bracedName).named _) fun _ => rfl)

theorem sound_literal (construct : Construct) (scan : Parser.Scanner)
    (spelling : List Char → LiteralSpelling) :
    Sound ExprOf.unplaced (literal construct scan spelling) (Language.literal scan spelling) :=
  sound_here_bind fun _ => ((sound_token scan).named construct).bind fun _ => sound_pure _

theorem sound_anyLiteral : Sound ExprOf.unplaced anyLiteral Language.anyLiteral :=
  (sound_literal _ _ _).orElse
    ((sound_literal _ _ _).orElse ((sound_literal _ _ _).orElse (sound_literal _ _ _)))

theorem sound_separated {α β : Type} {view : α → β} {p : Parser α} {R : Reading β}
    (h : Sound view p R) (limit : Nat) :
    Sound (List.map view) (separated limit p) (Language.separated R) := by
  have hother : Sound view (do let _ ← sign ","; p) (do let _ ← Language.sign ","; R) :=
    (sound_sign _).bind fun _ => h
  exact h.bind fun _ => (hother.many limit).bind fun _ => sound_pure _

variable {limit : Nat} {expr : Parser SpelledExpr} {E : Reading SpelledExpr}

theorem sound_arguments (h : Sound ExprOf.unplaced expr E) :
    Sound (List.map ExprOf.unplaced) (arguments limit expr) (Language.arguments E) := by
  refine Sound.named (Sound.bind (sound_sign _) fun _ => ?_) _
  refine Sound.bind (sound_separated h limit).optional fun args => ?_
  refine Sound.bind (sound_sign _) fun _ => ?_
  cases args <;> exact sound_pure _

theorem sound_call (h : Sound ExprOf.unplaced expr E) :
    Sound viewCall (call limit expr) (Language.call E) := by
  refine Sound.named (sound_here_bind fun _ => ?_) _
  exact sound_bareName.bind fun _ => (sound_arguments h).bind fun _ => sound_pure _

theorem sound_fieldRead : Sound ExprOf.unplaced fieldRead Language.fieldRead :=
  sound_here_bind fun _ => (sound_fieldName.named _).bind fun _ => sound_pure _

theorem sound_parenthesized (h : Sound ExprOf.unplaced expr E) :
    Sound ExprOf.unplaced (parenthesized expr) (Language.parenthesized E) :=
  (sound_sign _).bind fun _ => h.bind fun _ => (sound_sign _).bind fun _ => sound_pure _

theorem sound_primary (h : Sound ExprOf.unplaced expr E) :
    Sound ExprOf.unplaced (primary limit expr) (Language.primary E) := by
  have hcall : Sound ExprOf.unplaced
      ((fun c => .call c.1 c.2.1 c.2.2) <$> call limit expr)
      ((fun c => .call default c.1 c.2) <$> Language.call E) :=
    (sound_call h).map fun _ => by
      rw [ExprOf.unplaced, unplacedArgs_eq]
      rfl
  exact sound_anyLiteral.orElse (hcall.orElse (sound_fieldRead.orElse (sound_parenthesized h)))

theorem sound_operator {α : Type} (construct : Construct) (signs : List String)
    (op : List Char → α) :
    Sound Prod.snd (operator construct signs op) (Language.operator signs op) :=
  sound_here_bind fun _ => ((sound_token _).named construct).bind fun _ => sound_pure _

theorem sound_unary (h : Sound ExprOf.unplaced expr E) :
    Sound ExprOf.unplaced (unary limit expr) (Language.unary E) := by
  refine Sound.named (((sound_operator _ _ _).many limit).bind fun ops => ?_) _
  refine (sound_primary h).bind fun operand => ?_
  exact unplaced_applyUnary ops operand ▸ sound_pure _

theorem sound_binaryLevel {operand : Parser SpelledExpr} {R : Reading SpelledExpr}
    (h : Sound ExprOf.unplaced operand R) (construct opConstruct : Construct)
    (signs : List String) :
    Sound ExprOf.unplaced (binaryLevel limit construct opConstruct signs operand)
      (Language.binaryLevel signs R) := by
  have hother : Sound (fun other => (other.2.1, other.2.2.unplaced))
      (do
        let op ← operator opConstruct signs binaryOp
        let right ← operand
        pure (op.1, op.2, right))
      (do
        let op ← Language.operator signs binaryOp
        let right ← R
        pure (op, right)) :=
    (sound_operator _ _ _).bind fun _ => h.bind fun right => sound_pure _
  refine Sound.named (h.bind fun first => (hother.many limit).bind fun others => ?_) _
  exact unplaced_foldl_binary others first ▸ sound_pure _

theorem sound_product (h : Sound ExprOf.unplaced expr E) :
    Sound ExprOf.unplaced (product limit expr) (Language.product E) :=
  sound_binaryLevel (sound_unary h) _ _ _

theorem sound_sum (h : Sound ExprOf.unplaced expr E) :
    Sound ExprOf.unplaced (sum limit expr) (Language.sum E) :=
  sound_binaryLevel (sound_product h) _ _ _

theorem sound_comparison (h : Sound ExprOf.unplaced expr E) :
    Sound ExprOf.unplaced (comparison limit expr) (Language.comparison E) := by
  refine Sound.named (sound_here_bind fun pos => (sound_sum h).bind fun left => ?_) _
  have hother : Sound (fun other => (other.1, other.2.unplaced))
      (do
        let taken ← Parser.named .compareSign (Parser.token (Token.anySign Token.compareSigns))
        let right ← sum limit expr
        pure (compareOp? taken, right))
      (do
        let taken ← Reading.token (Token.anySign Token.compareSigns)
        let right ← Language.sum E
        pure (compareOp? taken, right)) :=
    ((sound_token _).named _).bind fun _ => (sound_sum h).bind fun _ => sound_pure _
  refine hother.optional.bind fun other => ?_
  rcases other with _ | ⟨_ | op, right⟩ <;> exact sound_pure _

theorem sound_negation (h : Sound ExprOf.unplaced expr E) :
    Sound ExprOf.unplaced (negation limit expr) (Language.negation E) := by
  refine Sound.named (((sound_operator _ _ _).many limit).bind fun nots => ?_) _
  refine (sound_comparison h).bind fun operand => ?_
  have htree := unplaced_applyNot (nots.map Prod.fst) operand
  rw [List.map_map] at htree
  have hpositions : nots.map ((fun _ => (default : Position)) ∘ Prod.fst) =
      (nots.map Prod.snd).map fun _ => default := by
    rw [List.map_map]
    rfl
  exact (htree.trans (congrArg (applyNot · operand.unplaced) hpositions)) ▸ sound_pure _

theorem sound_conjunction (h : Sound ExprOf.unplaced expr E) :
    Sound ExprOf.unplaced (conjunction limit expr) (Language.conjunction E) := by
  have hother : Sound ExprOf.unplaced (do let _ ← sign "&"; negation limit expr)
      (do let _ ← Language.sign "&"; Language.negation E) :=
    (sound_sign _).bind fun _ => sound_negation h
  refine Sound.named (sound_here_bind fun pos => (sound_negation h).bind fun first => ?_) _
  refine (hother.many limit).bind fun others => ?_
  exact unplaced_joinLogical .and pos first others ▸ sound_pure _

theorem sound_alternatives (h : Sound ExprOf.unplaced expr E) :
    Sound ExprOf.unplaced (alternatives limit expr) (Language.alternatives E) := by
  have hother : Sound ExprOf.unplaced (do let _ ← sign "|"; conjunction limit expr)
      (do let _ ← Language.sign "|"; Language.conjunction E) :=
    (sound_sign _).bind fun _ => sound_conjunction h
  refine Sound.named (sound_here_bind fun pos => (sound_sign _).optional.bind fun _ => ?_) _
  refine (sound_conjunction h).bind fun first => (hother.many limit).bind fun others => ?_
  exact unplaced_joinLogical .or pos first others ▸ sound_pure _

/-- What is read as an expression is one. -/
theorem sound_expression (depth : Nat) :
    Sound ExprOf.unplaced (expression depth) (Language.expression depth) := by
  induction depth with
  | zero =>
    rintro c e c' ⟨⟩
  | succ depth ih => exact sound_alternatives ih

/-! ### Statements -/

theorem sound_keyword (construct : Construct) (name : String) :
    Sound id (keyword construct name) (Language.keyword name) := by
  refine Sound.named ((sound_token _).bind fun _ => ?_) _
  exact sound_pure ()

theorem sound_directive (construct : Construct) (mark : String) (inline : Bool) (limit : Nat) :
    Sound DirectiveOf.unplaced (directive limit construct mark inline)
      (Language.directive (Language.expression limit) mark inline) := by
  refine Sound.named (sound_here_bind fun _ => (sound_sign _).bind fun _ => ?_) _
  refine sound_bareName.bind fun name => ?_
  refine (sound_arguments (sound_expression limit)).optional.bind fun args => ?_
  have hargs : unplacedArgs (args.getD []) = (args.map (List.map ExprOf.unplaced)).getD [] := by
    rw [unplacedArgs_eq]
    cases args <;> rfl
  exact hargs ▸ sound_pure _

theorem sound_assignment (limit : Nat) :
    Sound StatementOf.unplaced (assignment limit)
      (Language.assignment (Language.expression limit)) := by
  refine Sound.named (sound_here_bind fun _ => sound_fieldName.bind fun _ => ?_) _
  refine ((sound_token _).named _).bind fun _ => (sound_expression limit).bind fun _ => ?_
  exact sound_pure _

section Blocks

variable {block : Parser (List SpelledStatement)} {B : Reading (List SpelledStatement)}

theorem sound_branch (h : Sound (List.map StatementOf.unplaced) block B) (limit : Nat)
    (construct opening : Construct) (name : String) :
    Sound BranchOf.unplaced (branch limit construct opening name block)
      (Language.branch (Language.expression limit) name B) := by
  refine Sound.named ((sound_keyword _ _).bind fun _ => ?_) _
  refine (sound_expression limit).bind fun condition => (sound_keyword _ _).bind fun _ => ?_
  refine h.bind fun body => ?_
  have hbranch : BranchOf.unplaced (.mk (SpelledExpr.asCondition condition) body) =
      .mk (SpelledExpr.asCondition condition.unplaced) (body.map StatementOf.unplaced) := by
    rw [← SpelledExpr.unplaced_asCondition, ← unplacedBlock_eq]
    rfl
  exact hbranch ▸ sound_pure _

theorem sound_rule (h : Sound (List.map StatementOf.unplaced) block B) (limit : Nat) :
    Sound StatementOf.unplaced (rule limit block)
      (Language.rule (Language.expression limit) B) := by
  refine Sound.named ((sound_branch h _ _ _ _).bind fun first => ?_) _
  refine ((sound_branch h _ _ _ _).many limit).bind fun others => ?_
  have helse : Sound (List.map StatementOf.unplaced)
      (Parser.named .elseBranch do keyword .kwElse "else"; block)
      (do Language.keyword "else"; B) :=
    Sound.named ((sound_keyword _ _).bind fun _ => h) _
  refine helse.optional.bind fun otherwise => (sound_keyword _ _).bind fun _ => ?_
  have hrule : StatementOf.unplaced (.rule (first :: others) otherwise) =
      .rule (first.unplaced :: others.map BranchOf.unplaced)
        (otherwise.map (List.map StatementOf.unplaced)) := by
    cases otherwise <;> simp only [StatementOf.unplaced, unplacedBranches_eq, unplacedBlock_eq] <;>
      rfl
  exact hrule ▸ sound_pure _

theorem sound_statementOver (h : Sound (List.map StatementOf.unplaced) block B) (limit : Nat) :
    Sound StatementOf.unplaced (statementOver limit block)
      (Language.statementOver (Language.expression limit) B) := by
  have hinline : Sound StatementOf.unplaced (.directive <$> inlineDirective limit)
      (.directive <$> Language.directive (Language.expression limit) "@@" true) :=
    (sound_directive _ _ _ limit).map fun _ => rfl
  have hheader : Sound StatementOf.unplaced (.directive <$> headerDirective limit)
      (.directive <$> Language.directive (Language.expression limit) "@" false) :=
    (sound_directive _ _ _ limit).map fun _ => rfl
  have hcall : Sound StatementOf.unplaced
      ((fun c => .call c.1 c.2.1 c.2.2) <$> call limit (expression limit))
      ((fun c => .call default c.1 c.2) <$> Language.call (Language.expression limit)) :=
    (sound_call (sound_expression limit)).map fun _ => by
      rw [StatementOf.unplaced, unplacedArgs_eq]
      rfl
  refine Sound.bind ((sound_rule h limit).orElse (hinline.orElse (hheader.orElse
    ((sound_assignment limit).orElse hcall)))) fun statement => ?_
  exact (sound_sign _).optional.bind fun _ => sound_pure _

end Blocks

/-- What is read as a statement is one. -/
theorem sound_statement (depth : Nat) :
    Sound StatementOf.unplaced (statement depth) (Language.statement depth) := by
  induction depth with
  | zero =>
    rintro c s c' ⟨⟩
  | succ depth ih => exact sound_statementOver ((ih.many depth).named _) depth

/-- Reads a directive before the first statement, and the semicolon behind it. -/
def headerItem (limit : Nat) : Parser SpelledDirective := do
  let d ← headerDirective limit
  let _ ← Parser.optional (sign ";")
  pure d

theorem header_eq (limit : Nat) : header limit =
    Parser.named .header (Parser.many limit (headerItem limit)) := rfl

theorem sound_headerItem (limit : Nat) :
    Sound DirectiveOf.unplaced (headerItem limit) (Language.headerItem limit) :=
  (sound_directive _ _ _ limit).bind fun _ => (sound_sign _).optional.bind fun _ => sound_pure _

end Grammar

end RecordScript
