import RecordScript.Proofs.Grammar.Token
import RecordScript.Proofs.Spelled.Building
import RecordScript.Proofs.Spelled.Mirror

/-!
# Trees and spelled files

Reading the trees of a text and building a source file from them comes to the same as reading the
text as it is spelled and decoding that. Construct by construct, the parsers of the two grammars
mirror each other, and what is built from the nodes of a construct is what its spelled form is
decoded to. So no tree is other than the builder expects.
-/

namespace RecordScript

open Build RecordScript.Parser SpelledExpr

variable [RegexEngine]

/-- There is one node, of the given construct, and what is built from it is the result. -/
def IsBuilt {α : Type} (construct : Construct) (build : ParseTree → Build α) (ts : List ParseTree)
    (x : Except SyntaxError α) : Prop :=
  ∃ t, ts = [t] ∧ t.construct = construct ∧ build t = ofResult x

namespace TreeGrammar

omit [RegexEngine] in
/-- A construct is built as it is spelled if that is so whatever its parts are. -/
theorem mirrors_construct {α β : Type} {ps : List TreeParser} {q : Parser β} {c : Cursor}
    {construct : Construct} {build : ParseTree → Build α} {x : β → Except SyntaxError α}
    (h : Mirrors (sequence ps) q c fun parts b =>
      build { construct, position := c.position, parts } = ofResult (x b)) :
    Mirrors (around construct ps) (named construct q) c fun ts b =>
      IsBuilt construct build ts (x b) :=
  (mirrors_around h construct).mono fun _ _ ⟨_, hts, hbuild⟩ => ⟨_, hts, rfl, hbuild⟩

/-! ### Names and literals -/

omit [RegexEngine] in
theorem mirrors_fieldName (c : Cursor) :
    Mirrors fieldName Grammar.fieldName c fun ts s =>
      ∃ t, ts = [t] ∧ Builder.identifier t = ofResult (problemAt c.position s.decode) := by
  refine Mirrors.orElse (Mirrors.map_right ?_) (Mirrors.map_right ?_)
  · refine (mirrors_leaf _ _ c).mono ?_
    rintro _ taken ⟨rfl, -⟩
    exact ⟨_, rfl, rfl⟩
  · refine (mirrors_enclosed _ _ _ c).mono ?_
    rintro _ taken ⟨pos, rfl⟩
    exact ⟨_, rfl, rfl⟩

/-- The node of a primary expression, from which its spelled form is built. -/
def IsPrimary (build : ParseTree → Build Expr) (ts : List ParseTree) (s : SpelledExpr) : Prop :=
  ∃ t, ts = [t] ∧ t.construct ≠ .unarySign ∧ Builder.primary build t = ofResult s.decode

theorem mirrors_literal {p : TreeParser} {construct : Construct} {scan : Scanner}
    {spelling : List Char → LiteralSpelling} {c : Cursor} {build : ParseTree → Build Expr}
    (h : Mirrors p (named construct (token scan)) c fun ts taken =>
      IsPrimary build ts (.literal c.position (spelling taken))) :
    Mirrors p (Grammar.literal construct scan spelling) c (IsPrimary build) :=
  mirrors_here_right (Mirrors.map_right h)

theorem mirrors_anyLiteral (build : ParseTree → Build Expr) (c : Cursor) :
    Mirrors anyLiteral Grammar.anyLiteral c (IsPrimary build) := by
  refine Mirrors.orElse (mirrors_literal ?_) (Mirrors.orElse (mirrors_literal ?_)
    (Mirrors.orElse (mirrors_literal ?_) (mirrors_literal ?_)))
  · refine (mirrors_leaf _ _ c).mono ?_
    rintro _ taken ⟨rfl, -⟩
    exact ⟨_, rfl, by simp, rfl⟩
  · refine (mirrors_leaf _ _ c).mono ?_
    rintro _ taken ⟨rfl, -⟩
    exact ⟨_, rfl, by simp, by simp [Builder.primary, decode, located]⟩
  · refine (mirrors_enclosed _ _ _ c).mono ?_
    rintro _ taken ⟨pos, rfl⟩
    exact ⟨_, rfl, by simp, by simp [Builder.primary, decode, located]⟩
  · refine (mirrors_enclosed _ _ _ c).mono ?_
    rintro _ taken ⟨pos, rfl⟩
    exact ⟨_, rfl, by simp, by simp [Builder.primary, decode, located]⟩

/-! ### Expressions -/

section Expressions

variable {limit : Nat} {p : TreeParser} {q : Parser SpelledExpr} {build : ParseTree → Build Expr}

/-- What is read as a node of the construct is built as it is spelled. -/
def BuildsExpr (construct : Construct) (p : TreeParser) (q : Parser SpelledExpr)
    (build : ParseTree → Build Expr) : Prop :=
  ∀ c, Mirrors p q c fun ts s => IsBuilt construct build ts s.decode

/-- The nodes of expressions side by side, and how the expressions are spelled. -/
def AreBuilt (build : ParseTree → Build Expr) : List ParseTree → List SpelledExpr → Prop :=
  List.Forall₂ fun t s => build t = ofResult s.decode

/-- Expressions behind a sign each. -/
theorem mirrors_behind {construct : Construct} (h : BuildsExpr construct p q build) (sign : String)
    (c : Cursor) :
    Mirrors (repeated limit [mark sign, p]) (many limit (do let _ ← Grammar.sign sign; q)) c
      (AreBuilt build) := by
  refine mirrors_repeated_single (mirrors_mark_cons (fun c => Mirrors.sequence_single ?_) sign) _ c
  exact (h c).mono fun _ _ ⟨t, hts, _, ht⟩ => ⟨t, hts, ht⟩

theorem mirrors_arguments (h : BuildsExpr .expression p q build) (c : Cursor) :
    Mirrors (arguments limit p) (Grammar.arguments limit q) c fun ts args =>
      IsBuilt .arguments (Builder.arguments build) ts (decodeArgs args) := by
  have hseparated : ∀ c, Mirrors (sequence [p, repeated limit [mark ",", p]])
      (Grammar.separated limit q) c (AreBuilt build) := by
    intro c
    refine Mirrors.sequence_cons (h c) ?_
    rintro _ first c' ⟨t, rfl, -, ht⟩
    refine Mirrors.sequence_cons (mirrors_behind h "," c') fun ts others _ hts =>
      mirrors_sequence_nil ?_
    rw [List.append_nil]
    exact .cons ht hts
  refine mirrors_construct (mirrors_mark_cons (fun c => ?_) "(" c)
  refine Mirrors.sequence_cons (mirrors_maybe (hseparated c)) fun ts args c' hargs =>
    mirrors_mark_cons (fun _ => mirrors_sequence_nil ?_) ")" c'
  have hbuilt : AreBuilt build ts (args.getD []) := by
    cases args with
    | none => exact hargs ▸ .nil
    | some args => exact hargs
  simp [Builder.arguments, mapM_eq_ofResult hbuilt, decodeArgs_eq]

theorem mirrors_call (h : BuildsExpr .expression p q build) (c : Cursor) :
    Mirrors (call limit p) (Grammar.call limit q) c fun ts called =>
      IsBuilt .call (Builder.call build) ts
        ((fun args => (called.1, called.2.1, args)) <$> decodeArgs called.2.2) := by
  refine mirrors_construct (mirrors_here_right (Mirrors.sequence_cons (mirrors_leaf _ _ c) ?_))
  rintro _ name c' ⟨rfl, -⟩
  refine Mirrors.sequence_cons (mirrors_arguments h c') ?_
  rintro _ args _ ⟨t, rfl, ht, hbuild⟩
  refine mirrors_sequence_nil ?_
  simp [Builder.call, ht, hbuild]

theorem mirrors_primary (h : BuildsExpr .expression p q build) (c : Cursor) :
    Mirrors (primary limit p) (Grammar.primary limit q) c (IsPrimary build) := by
  refine Mirrors.orElse (mirrors_anyLiteral build c) (Mirrors.orElse (Mirrors.map_right ?_)
    (Mirrors.orElse (mirrors_here_right (Mirrors.map_right ?_)) (mirrors_mark_cons ?_ "(" c)))
  · refine (mirrors_call h c).mono ?_
    rintro _ ⟨pos, function, args⟩ ⟨t, rfl, ht, hbuild⟩
    exact ⟨t, rfl, by simp [ht], by simp [Builder.primary, ht, hbuild, decode]⟩
  · refine (mirrors_around (Mirrors.sequence_single (mirrors_fieldName c)) _).mono ?_
    rintro _ s ⟨_, rfl, t, rfl, ht⟩
    exact ⟨_, rfl, by simp, by simp [Builder.primary, ht, decode]⟩
  · refine fun c => Mirrors.sequence_cons (h c) ?_
    rintro _ s c' ⟨t, rfl, ht, hbuild⟩
    refine mirrors_mark_cons (fun _ => mirrors_sequence_nil ?_) ")" c'
    exact ⟨t, rfl, by simp [ht], by simp [Builder.primary, ht, hbuild]⟩

omit [RegexEngine] in
/-- One of several signs, as a node of its own. -/
theorem mirrors_operator {α : Type} (construct : Construct) (signs : List String)
    (op : List Char → α) (c : Cursor) :
    Mirrors (operator construct signs) (Grammar.operator construct signs op) c fun ts read =>
      ∃ sign ∈ signs, ts = [{ construct, position := c.position, text := sign.toList }] ∧
        read = (c.position, op sign.toList) := by
  refine mirrors_here_right (Mirrors.map_right ((mirrors_leaf _ _ c).mono ?_))
  rintro _ taken ⟨rfl, cs, rest, hscan⟩
  obtain ⟨sign, hsign, hscan⟩ := Token.exists_sign_of_anySign hscan
  obtain ⟨rfl, -⟩ := Token.sign_eq_some.mp hscan
  exact ⟨sign, hsign, rfl, rfl⟩

theorem builds_unary (h : BuildsExpr .expression p q build) :
    BuildsExpr .unary (unary limit p) (Grammar.unary limit q) (Builder.unary build) := by
  have hsign : ∀ c, Mirrors (sequence [operator .unarySign ["+", "-"]])
      (Grammar.operator .unarySign ["+", "-"] fun taken => if taken = ['-'] then .minus else .plus)
      c fun ts op => ∃ t, ts = [t] ∧ Builder.IsSign t op := by
    refine fun c => Mirrors.sequence_single ((mirrors_operator _ _ _ c).mono ?_)
    rintro _ _ ⟨sign, -, rfl, rfl⟩
    exact ⟨_, rfl, rfl, rfl, rfl⟩
  refine fun c => mirrors_construct (Mirrors.sequence_cons (mirrors_repeated_single hsign limit c)
    fun signs ops c' hops => Mirrors.sequence_cons (mirrors_primary h c') ?_)
  rintro _ s _ ⟨t, rfl, hconstruct, ht⟩
  refine mirrors_sequence_nil ?_
  rw [List.append_nil]
  exact Builder.unary_eq hops hconstruct ht

/-- A sign with its right operand. -/
theorem mirrors_signAndOperand {opConstruct inner : Construct} {signs : List String}
    {operand : TreeParser} {spelled : Parser SpelledExpr} {built : ParseTree → Build Expr}
    (hsigns : ∀ sign ∈ signs,
      Builder.binaryOp? sign.toList = some (Grammar.binaryOp sign.toList))
    (h : BuildsExpr inner operand spelled built) (c : Cursor) :
    Mirrors (sequence [operator opConstruct signs, operand]) (do
      let (pos, op) ← Grammar.operator opConstruct signs Grammar.binaryOp
      let right ← spelled
      pure (pos, op, right)) c (Builder.IsApplied built) := by
  refine Mirrors.sequence_cons (mirrors_operator _ _ _ c) ?_
  rintro _ _ c' ⟨sign, hsign, rfl, rfl⟩
  refine Mirrors.sequence_cons (h c') ?_
  rintro _ s _ ⟨t, rfl, -, ht⟩
  exact mirrors_sequence_nil ⟨_, t, rfl, rfl, hsigns sign hsign, ht⟩

/-- A level of operators, over a level of operands. -/
theorem builds_binaryLevel {construct opConstruct inner : Construct} {signs : List String}
    {operand : TreeParser} {spelled : Parser SpelledExpr} {built : ParseTree → Build Expr}
    (hsigns : ∀ sign ∈ signs,
      Builder.binaryOp? sign.toList = some (Grammar.binaryOp sign.toList))
    (h : BuildsExpr inner operand spelled built) :
    BuildsExpr construct (binaryLevel limit construct opConstruct signs operand)
      (Grammar.binaryLevel limit construct opConstruct signs spelled)
      (Builder.binaryChain built) := by
  refine fun c => mirrors_construct (Mirrors.sequence_cons (h c) ?_)
  rintro _ first c' ⟨t, rfl, -, ht⟩
  refine Mirrors.sequence_cons (mirrors_repeated (mirrors_signAndOperand hsigns h) limit c') ?_
  rintro _ others _ ⟨tss, rfl, htss⟩
  refine mirrors_sequence_nil ?_
  rw [List.append_nil]
  exact Builder.binaryChain_eq ht htss

theorem builds_sum (h : BuildsExpr .expression p q build) :
    BuildsExpr .sum (sum limit p) (Grammar.sum limit q) (Builder.sum build) :=
  builds_binaryLevel (by decide) (builds_binaryLevel (by decide) (builds_unary h))

theorem builds_comparison (h : BuildsExpr .expression p q build) :
    BuildsExpr .comparison (comparison limit p) (Grammar.comparison limit q)
      (Builder.comparison build) := by
  have hother : ∀ c, Mirrors (sequence [operator .compareSign Token.compareSigns, sum limit p])
      (do
        let taken ← named .compareSign (token (Token.anySign Token.compareSigns))
        let right ← Grammar.sum limit q
        pure (Grammar.compareOp? taken, right)) c fun ts other =>
      ∃ sign ∈ Token.compareSigns, ∃ t t' : ParseTree, ts = [t, t'] ∧ t.text = sign.toList ∧
        t'.construct = .sum ∧ Builder.sum build t' = ofResult other.2.decode ∧
        other.1 = Grammar.compareOp? sign.toList := by
    intro c
    refine Mirrors.sequence_cons (mirrors_leaf _ _ c) ?_
    rintro _ taken c' ⟨rfl, cs, rest, hscan⟩
    obtain ⟨sign, hsign, hscan⟩ := Token.exists_sign_of_anySign hscan
    obtain ⟨rfl, -⟩ := Token.sign_eq_some.mp hscan
    refine Mirrors.sequence_cons (builds_sum h c') ?_
    rintro _ right _ ⟨t', rfl, ht', hbuild⟩
    exact mirrors_sequence_nil ⟨sign, hsign, _, t', rfl, rfl, ht', hbuild, rfl⟩
  refine fun c =>
    mirrors_construct (mirrors_here_right (Mirrors.sequence_cons (builds_sum h c) ?_))
  rintro _ left c' ⟨t, rfl, ht, hbuild⟩
  refine Mirrors.sequence_cons (mirrors_maybe (hother c')) fun ts other c'' hts => ?_
  cases other with
  | none =>
    refine mirrors_sequence_nil ?_
    obtain rfl : ts = [] := hts
    simp [Builder.comparison, ht, hbuild]
  | some other =>
    obtain ⟨op, right⟩ := other
    obtain ⟨sign, hsign, t', t'', rfl, htext, hconstruct, hright, rfl⟩ := hts
    cases hop : Grammar.compareOp? sign.toList <;> refine mirrors_sequence_nil ?_ <;>
      simp [Builder.comparison, ht, hbuild, hconstruct, hright, htext, Builder.compared_eq hsign,
        hop, decode]

theorem builds_negation (h : BuildsExpr .expression p q build) :
    BuildsExpr .negation (negation limit p) (Grammar.negation limit q) (Builder.negation build) := by
  have hsign : ∀ c, Mirrors (sequence [operator .notSign ["!"]])
      (Grammar.operator .notSign ["!"] fun _ => ()) c fun ts op =>
      ∃ t, ts = [t] ∧ t.construct = .notSign ∧ t.position = op.1 := by
    refine fun c => Mirrors.sequence_single ((mirrors_operator _ _ _ c).mono ?_)
    rintro _ _ ⟨sign, -, rfl, rfl⟩
    exact ⟨_, rfl, rfl, rfl⟩
  refine fun c => mirrors_construct (Mirrors.sequence_cons (mirrors_repeated_single hsign limit c)
    fun signs ops c' hops => Mirrors.sequence_cons (builds_comparison h c') ?_)
  rintro _ s _ ⟨t, rfl, ht, hbuild⟩
  refine mirrors_sequence_nil ?_
  rw [List.append_nil]
  exact Builder.negation_eq (List.forall₂_map_right_iff.mpr hops) ht hbuild

theorem builds_conjunction (h : BuildsExpr .expression p q build) :
    BuildsExpr .conjunction (conjunction limit p) (Grammar.conjunction limit q)
      (Builder.conjunction build) := by
  refine fun c =>
    mirrors_construct (mirrors_here_right (Mirrors.sequence_cons (builds_negation h c) ?_))
  rintro _ first c' ⟨t, rfl, -, ht⟩
  refine Mirrors.sequence_cons (mirrors_behind (builds_negation h) "&" c') fun ts others _ hts =>
    mirrors_sequence_nil ?_
  rw [List.append_nil]
  exact Builder.logical_eq ht hts

theorem builds_alternatives (h : BuildsExpr .expression p q build) :
    BuildsExpr .expression (alternatives limit p) (Grammar.alternatives limit q)
      (Builder.alternatives build) := by
  refine fun c => mirrors_construct
    (mirrors_here_right (Mirrors.sequence_cons (mirrors_maybe_mark "|" c) ?_))
  rintro _ _ c' rfl
  refine Mirrors.sequence_cons (builds_conjunction h c') ?_
  rintro _ first c'' ⟨t, rfl, -, ht⟩
  refine Mirrors.sequence_cons (mirrors_behind (builds_conjunction h) "|" c'')
    fun ts others _ hts => mirrors_sequence_nil ?_
  rw [List.append_nil]
  exact Builder.logical_eq ht hts

end Expressions

/-- Expressions are built as they are spelled, however deep they are nested. -/
theorem builds_expression (depth : Nat) :
    BuildsExpr .expression (expression depth) (Grammar.expression depth)
      (Builder.expression depth) := by
  induction depth with
  | zero => exact fun _ => mirrors_fail
  | succ depth ih => exact builds_alternatives ih

/-! ### Statements -/

section Statements

variable {limit : Nat} {block : TreeParser} {spelled : Parser (List SpelledStatement)}
  {build : ParseTree → Build Statement}

/-- A block is built as it is spelled. -/
def BuildsBlock (block : TreeParser) (spelled : Parser (List SpelledStatement))
    (build : ParseTree → Build Statement) : Prop :=
  ∀ c, Mirrors block spelled c fun ts body =>
    IsBuilt .block (Builder.statements build) ts (decodeBlock body)

omit [RegexEngine] in
theorem mirrors_keyword (construct : Construct) (name : String) (c : Cursor) :
    Mirrors (keyword construct name) (Grammar.keyword construct name) c fun ts _ =>
      ∃ t, ts = [t] ∧ t.construct = construct :=
  Mirrors.named (mirrors_here_left (Mirrors.map (mirrors_refl _ c) fun _ _ _ => ⟨_, rfl, rfl⟩))
    construct

theorem mirrors_directive {construct : Construct} {inline : Bool}
    (hinline : decide (construct = .inlineDirective) = inline) (sign : String) (c : Cursor) :
    Mirrors (directive limit construct sign) (Grammar.directive limit construct sign inline) c
      fun ts d => IsBuilt construct (Builder.directive limit) ts (SpelledDirective.decode d) := by
  refine mirrors_construct (mirrors_here_right (mirrors_mark_cons (fun c' => ?_) sign c))
  refine Mirrors.sequence_cons (mirrors_leaf _ _ c') ?_
  rintro _ name c'' ⟨rfl, -⟩
  refine Mirrors.sequence_cons (mirrors_maybe (Mirrors.sequence_single
    (mirrors_arguments (builds_expression limit) c''))) fun ts args _ hts =>
      mirrors_sequence_nil ?_
  cases args with
  | none =>
    obtain rfl : ts = [] := hts
    simp [Builder.directive, SpelledDirective.decode, decodeArgs, hinline]
  | some args =>
    obtain ⟨t, rfl, ht, hbuild⟩ := hts
    simp [Builder.directive, SpelledDirective.decode, hbuild, hinline]

theorem mirrors_assignment (c : Cursor) :
    Mirrors (assignment limit) (Grammar.assignment limit) c fun ts s =>
      IsBuilt .assignment (Builder.assignment limit) ts (SpelledStatement.decode s) := by
  refine mirrors_construct (mirrors_here_right (Mirrors.sequence_cons (mirrors_fieldName c) ?_))
  rintro _ field c' ⟨t, rfl, hfield⟩
  refine Mirrors.sequence_cons (mirrors_leaf _ _ c') ?_
  rintro _ _ c'' ⟨rfl, -⟩
  refine Mirrors.sequence_cons (builds_expression limit c'') ?_
  rintro _ value _ ⟨t', rfl, ht', hvalue⟩
  refine mirrors_sequence_nil ?_
  simp [Builder.assignment, hfield, ht', hvalue, SpelledStatement.decode]

theorem mirrors_branch (h : BuildsBlock block spelled build) (construct opening : Construct)
    (name : String) (c : Cursor) :
    Mirrors (branch limit construct opening name block)
      (Grammar.branch limit construct opening name spelled) c fun ts b =>
      IsBuilt construct (Builder.branch limit build) ts b.decode := by
  refine mirrors_construct (Mirrors.sequence_cons (mirrors_keyword opening name c) ?_)
  rintro _ _ c₁ ⟨_, rfl, -⟩
  refine Mirrors.sequence_cons (builds_expression limit c₁) ?_
  rintro _ condition c₂ ⟨t, rfl, -, ht⟩
  refine Mirrors.sequence_cons (mirrors_keyword .kwThen "then" c₂) ?_
  rintro _ _ c₃ ⟨_, rfl, hthen⟩
  refine Mirrors.sequence_cons (h c₃) ?_
  rintro _ body _ ⟨t', rfl, ht', hbody⟩
  refine mirrors_sequence_nil ?_
  simp [Builder.branch, hthen, ht, ht', hbody, SpelledBranch.decode, BranchOf.condition,
    BranchOf.body, decode_asCondition]

theorem mirrors_elseBranch (h : BuildsBlock block spelled build) (c : Cursor) :
    Mirrors (around .elseBranch [keyword .kwElse "else", block])
      (named .elseBranch do Grammar.keyword .kwElse "else"; spelled) c fun ts body =>
      IsBuilt .elseBranch (Builder.elseBranch build) ts (decodeBlock body) := by
  refine mirrors_construct (Mirrors.sequence_cons (mirrors_keyword .kwElse "else" c) ?_)
  rintro _ _ c' ⟨_, rfl, helse⟩
  refine (Mirrors.sequence_single (h c')).mono ?_
  rintro _ body ⟨t, rfl, ht, hbody⟩
  simp [Builder.elseBranch, helse, ht, hbody]

theorem mirrors_rule (h : BuildsBlock block spelled build) (c : Cursor) :
    Mirrors (rule limit block) (Grammar.rule limit spelled) c fun ts s =>
      IsBuilt .rule (fun t => Builder.ruleParts limit build [] none t.parts) ts
        (SpelledStatement.decode s) := by
  have hother : ∀ c, Mirrors (sequence [branch limit .elifBranch .kwElif "elif" block])
      (Grammar.branch limit .elifBranch .kwElif "elif" spelled) c fun ts b =>
      ∃ t, ts = [t] ∧ Builder.IsBranch limit build t b := fun c =>
    Mirrors.sequence_single ((mirrors_branch h _ _ _ c).mono
      fun _ _ ⟨t, hts, ht, hb⟩ => ⟨t, hts, .inr ht, hb⟩)
  refine mirrors_construct (Mirrors.sequence_cons (mirrors_branch h .ifBranch .kwIf "if" c) ?_)
  rintro _ first c₁ ⟨t, rfl, ht, hfirst⟩
  refine Mirrors.sequence_cons (mirrors_repeated_single hother limit c₁) fun ts others c₂ hts => ?_
  refine Mirrors.sequence_cons (mirrors_maybe (Mirrors.sequence_single (mirrors_elseBranch h c₂)))
    fun ts' otherwise c₃ hts' => ?_
  refine Mirrors.sequence_cons (mirrors_keyword .kwFi "fi" c₃) ?_
  rintro _ _ _ ⟨t', rfl, hfi⟩
  refine mirrors_sequence_nil ?_
  have hbranches : List.Forall₂ (Builder.IsBranch limit build) (t :: ts) (first :: others) :=
    .cons ⟨.inl ht, hfirst⟩ hts
  have hparts := Builder.ruleParts_append hbranches [] none (ts' ++ [t'])
  cases otherwise with
  | none =>
    obtain rfl : ts' = [] := hts'
    simpa [Builder.ruleParts, hfi, SpelledStatement.decode, decodeBranches_eq] using hparts
  | some body =>
    obtain ⟨t'', rfl, ht'', hbody⟩ := hts'
    simpa [Builder.ruleParts, hfi, ht'', hbody, SpelledStatement.decode, decodeBranches_eq]
      using hparts

/-- A statement is built as it is spelled, without the semicolon behind it. -/
theorem mirrors_statementOver (h : BuildsBlock block spelled build) (c : Cursor) :
    Mirrors (statementOver limit block) (Grammar.statementOver limit spelled) c fun ts s =>
      ∃ t, ts = [t] ∧
        Builder.statementOver limit build t = ofResult (SpelledStatement.decode s) := by
  refine Mirrors.sequence_cons (R := fun ts s => ∃ t, ts = [t] ∧
    Builder.statementOver limit build t = ofResult (SpelledStatement.decode s)) ?_ ?_
  · refine Mirrors.orElse ?_ (Mirrors.orElse (Mirrors.map_right ?_)
      (Mirrors.orElse (Mirrors.map_right ?_) (Mirrors.orElse ?_ (Mirrors.map_right ?_))))
    · refine (mirrors_rule h c).mono ?_
      rintro _ s ⟨t, rfl, ht, hbuild⟩
      exact ⟨t, rfl, by simpa [Builder.statementOver, ht] using hbuild⟩
    · refine (mirrors_directive rfl "@@" c).mono ?_
      rintro _ d ⟨t, rfl, ht, hbuild⟩
      exact ⟨t, rfl, by simp [Builder.statementOver, ht, hbuild, SpelledStatement.decode]⟩
    · refine (mirrors_directive rfl "@" c).mono ?_
      rintro _ d ⟨t, rfl, ht, hbuild⟩
      exact ⟨t, rfl, by simp [Builder.statementOver, ht, hbuild, SpelledStatement.decode]⟩
    · refine (mirrors_assignment c).mono ?_
      rintro _ s ⟨t, rfl, ht, hbuild⟩
      exact ⟨t, rfl, by simp [Builder.statementOver, ht, hbuild]⟩
    · refine (mirrors_call (builds_expression limit) c).mono ?_
      rintro _ ⟨pos, function, args⟩ ⟨t, rfl, ht, hbuild⟩
      exact ⟨t, rfl, by simp [Builder.statementOver, ht, hbuild, SpelledStatement.decode]⟩
  · rintro _ s c' ⟨t, rfl, ht⟩
    refine Mirrors.sequence_cons (mirrors_maybe_mark ";" c') ?_
    rintro _ _ _ rfl
    exact mirrors_sequence_nil ⟨t, rfl, ht⟩

/-- Statements are built as they are spelled, however deep rules are nested. -/
theorem mirrors_statement (depth : Nat) (c : Cursor) :
    Mirrors (statement depth) (Grammar.statement depth) c fun ts s =>
      ∃ t, ts = [t] ∧ Builder.statement depth t = ofResult (SpelledStatement.decode s) := by
  induction depth generalizing c with
  | zero => exact mirrors_fail
  | succ depth ih =>
    refine mirrors_statementOver (fun c => mirrors_construct (Mirrors.sequence_single ?_)) c
    refine (mirrors_repeated_single (fun c => Mirrors.sequence_single (ih c)) depth c).mono ?_
    intro ts body hts
    rw [Builder.statements, mapM_eq_ofResult hts, decodeBlock_eq]

end Statements

/-! ### Programs -/

theorem mirrors_header (limit : Nat) (c : Cursor) :
    Mirrors (header limit) (Grammar.header limit) c fun ts ds =>
      IsBuilt .header (fun t => t.parts.mapM (Builder.directive limit)) ts
        (ds.mapM SpelledDirective.decode) := by
  have hdirective : ∀ c, Mirrors (sequence [headerDirective limit, maybe [mark ";"]])
      (do
        let d ← Grammar.headerDirective limit
        let _ ← optional (Grammar.sign ";")
        pure d) c fun ts d =>
      ∃ t, ts = [t] ∧ Builder.directive limit t = ofResult (SpelledDirective.decode d) := by
    intro c
    refine Mirrors.sequence_cons (mirrors_directive rfl "@" c) ?_
    rintro _ d c' ⟨t, rfl, -, hbuild⟩
    refine Mirrors.sequence_cons (mirrors_maybe_mark ";" c') ?_
    rintro _ _ _ rfl
    exact mirrors_sequence_nil ⟨t, rfl, hbuild⟩
  refine mirrors_construct (Mirrors.sequence_single ?_)
  exact (mirrors_repeated_single hdirective limit c).mono fun _ _ hts => mapM_eq_ofResult hts

/-- A program is built as it is spelled. -/
theorem mirrors_program (limit : Nat) (c : Cursor) :
    Mirrors (program limit) (Grammar.program limit) c fun ts file =>
      IsBuilt .program (Builder.sourceFile limit) ts file.decode := by
  have hgap : Mirrors gap layout c fun ts _ => ts = [] :=
    Mirrors.map_left ((mirrors_refl _ c).mono fun _ _ _ => rfl)
  have hnothing : ∀ c, Mirrors nothing atEnd c fun ts _ => ts = [] := fun c =>
    Mirrors.map_left ((mirrors_refl _ c).mono fun _ _ _ => rfl)
  have hstatements : ∀ c, Mirrors (around .statements [repeated limit [statement limit]])
      (named .statements (many limit (Grammar.statement limit))) c fun ts body =>
      IsBuilt .statements (Builder.statements (Builder.statement limit)) ts (decodeBlock body) := by
    intro c
    refine mirrors_construct (Mirrors.sequence_single ?_)
    refine (mirrors_repeated_single
      (fun c => Mirrors.sequence_single (mirrors_statement limit c)) limit c).mono ?_
    intro ts body hts
    rw [Builder.statements, mapM_eq_ofResult hts, decodeBlock_eq]
  refine mirrors_construct (Mirrors.sequence_cons hgap ?_)
  rintro _ _ c₁ rfl
  refine Mirrors.sequence_cons (mirrors_header limit c₁) ?_
  rintro _ ds c₂ ⟨t, rfl, ht, hheader⟩
  refine Mirrors.sequence_cons (hstatements c₂) ?_
  rintro _ body c₃ ⟨t', rfl, ht', hbody⟩
  refine Mirrors.sequence_cons
    (mirrors_around (Mirrors.sequence_single (hnothing c₃)) .endOfInput) ?_
  rintro _ _ _ ⟨_, rfl, -⟩
  refine mirrors_sequence_nil ?_
  simp [Builder.sourceFile, ht, ht', hheader, hbody, SpelledFile.decode]

end TreeGrammar

omit [RegexEngine] in
/-- Replies that agree amount to the same, up to what has been read. -/
theorem Reply.Agree.result {α β : Type} {R : α → β → Prop} {reply : Reply α} {reply' : Reply β}
    (h : Agree R reply reply') (source : String) :
    (∃ a b, R a b ∧ reply.result source = .ok a ∧ reply'.result source = .ok b) ∨
      ∃ e, reply.result source = .error e ∧ reply'.result source = .error e := by
  cases h with
  | read related => exact .inl ⟨_, _, related, rfl, rfl⟩
  | @failed frontier => cases frontier <;> exact .inr ⟨_, rfl, rfl⟩

/-- The grammar of trees and the spelled one accept the same texts, and what is built from the tree
of a text is what its spelled form is decoded to. A text that they reject is rejected for the same
reason. -/
theorem TreeGrammar.read_agrees (source : String) (text : List Char) :
    (∃ t file, read source text = .ok [t] ∧ Grammar.readSpelled source text = .ok file ∧
      Builder.sourceFile (text.length + 1) t = ofResult file.decode) ∨
    ∃ e, read source text = .error e ∧ Grammar.readSpelled source text = .error e := by
  have hagree := mirrors_program (text.length + 1) (Cursor.start source text)
  rcases Reply.Agree.result hagree source with
    ⟨_, file, ⟨t, rfl, -, hbuild⟩, htrees, hspelled⟩ | hrejected
  · exact .inl ⟨t, file, htrees, hspelled, hbuild⟩
  · exact .inr hrejected

theorem TreeGrammar.exists_read_iff {source : String} {text : List Char} :
    (∃ ts, read source text = .ok ts) ↔ ∃ file, Grammar.readSpelled source text = .ok file := by
  rcases read_agrees source text with ⟨t, file, htrees, hspelled, -⟩ | ⟨e, htrees, hspelled⟩
  · simp [htrees, hspelled]
  · simp [htrees, hspelled]

namespace SourceFile

/-- No tree of a text stops the builder: what is built is what the text as it is spelled is decoded
to. -/
theorem parse_eq (source text : String) :
    parse source text =
      ofResult (Grammar.readSpelled source text.toList >>= SpelledFile.decode) := by
  rcases TreeGrammar.read_agrees source text.toList with
    ⟨t, file, htrees, hspelled, hbuild⟩ | ⟨e, htrees, hspelled⟩
  · rw [String.length_toList] at hbuild
    simp [parse, htrees, hspelled, hbuild]
  · simp [parse, htrees, hspelled]

/-- Reading a text is reading it as it is spelled and decoding that. -/
theorem read_eq (source text : String) :
    read source text = Grammar.readSpelled source text.toList >>= SpelledFile.decode := by
  have hparse := parse_eq source text
  unfold read
  rcases hresult : Grammar.readSpelled source text.toList >>= SpelledFile.decode with e | file
  · rw [hparse, hresult, ofResult_error]
  · rw [hparse, hresult, ofResult_ok]
    rfl

theorem parse_eq_ofResult_read (source text : String) :
    parse source text = ofResult (read source text) := by
  rw [parse_eq, read_eq]

/-- Nothing stops the program that reads a text, whatever the text. -/
theorem parse_ne_panic (source text : String) (cause : Panic) :
    parse source text ≠ .error (.panic cause) := by
  rw [parse_eq_ofResult_read]
  cases read source text <;> nofun

theorem parse_eq_ok {source text : String} {file : SourceFile} :
    parse source text = .ok file ↔ read source text = .ok file := by
  rw [parse_eq_ofResult_read, ofResult, Result.mapError_eq_ok]

theorem parse_eq_invalid {source text : String} {e : SyntaxError} :
    parse source text = .error (.invalid e) ↔ read source text = .error e := by
  rw [parse_eq_ofResult_read]
  cases read source text <;> simp [ofResult]

end SourceFile

end RecordScript
