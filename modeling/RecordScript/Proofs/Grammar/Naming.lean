import RecordScript.Proofs.Grammar.Program
import RecordScript.Proofs.Syntax.Relocated

/-!
# Texts under other names

The name of a source appears in the positions of its tree, and decides nothing. Level by level of the
grammar, and then through decoding, a text that is read under another name is read as the same tree
with that name in every position.
-/

namespace RecordScript

/-- The position in a source of the given name. -/
def Position.inSource (source : String) (p : Position) : Position := { p with source }

/-- The cursor in a source of the given name. -/
def Cursor.inSource (source : String) (c : Cursor) : Cursor := { c with source }

namespace Cursor

variable {source : String}

theorem inSource_after (c : Cursor) (taken rest : List Char) :
    (c.inSource source).after taken rest = (c.after taken rest).inSource source := by
  have hcount : ∀ c : Cursor,
      taken.foldl count (c.inSource source) = (taken.foldl count c).inSource source := by
    induction taken with
    | nil => exact fun _ => rfl
    | cons char taken ih =>
      intro c
      have hstep : (c.inSource source).count char = (c.count char).inSource source := by
        rw [count, count]
        split <;> rfl
      rw [List.foldl_cons, List.foldl_cons, hstep, ih]
  rw [after, after, hcount]
  rfl

theorem inSource_skipLayout (c : Cursor) :
    (c.inSource source).skipLayout = c.skipLayout.inSource source :=
  inSource_after _ _ _

end Cursor

namespace Parser

variable {source : String} {α β γ δ : Type} {view : α → β} {view' : γ → δ} {p q : Parser α}
  {p' q' : Parser β} {f : α → Parser γ} {f' : β → Parser δ}

/-- In a source of the given name `p'` reads what `p` reads at the same place, up to the view. -/
def Renames (source : String) (view : α → β) (p : Parser α) (p' : Parser β) : Prop :=
  ∀ c, (p' (c.inSource source)).outcome =
    (p c).outcome.map fun (a, c') => (view a, c'.inSource source)

theorem renames_pure (a : α) : Renames source view (pure a) (pure (view a)) := fun _ => rfl

theorem Renames.bind (hp : Renames source view p p')
    (hf : ∀ a, Renames source view' (f a) (f' (view a))) :
    Renames source view' (p >>= f) (p' >>= f') := by
  intro c
  rw [outcome_bind, outcome_bind, hp c]
  rcases (p c).outcome with _ | ⟨a, mid⟩
  · rfl
  · exact hf a mid

theorem renames_here : Renames source (Position.inSource source) here here := fun _ => rfl

theorem Renames.map {g : α → γ} {g' : β → δ} (hp : Renames source view p p')
    (hg : ∀ a, view' (g a) = g' (view a)) : Renames source view' (g <$> p) (g' <$> p') := by
  refine hp.bind fun a => ?_
  change Renames source view' (pure (g a)) (pure (g' (view a)))
  exact hg a ▸ renames_pure (g a)

theorem Renames.orElse (hp : Renames source view p p') (hq : Renames source view q q') :
    Renames source view (p <|> q) (p' <|> q') := by
  intro c
  rw [outcome_orElse, outcome_orElse, hp c, hq c]
  rcases (p c).outcome with _ | result <;> rfl

theorem Renames.named (hp : Renames source view p p') (construct : Construct) :
    Renames source view (named construct p) (named construct p') := by
  intro c
  rw [outcome_named, outcome_named, hp c]

theorem Renames.optional (hp : Renames source view p p') :
    Renames source (Option.map view) (optional p) (optional p') :=
  Renames.orElse (hp.map fun _ => rfl) (renames_pure none)

theorem Renames.many (hp : Renames source view p p') (limit : Nat) :
    Renames source (List.map view) (many limit p) (many limit p') := by
  induction limit with
  | zero => exact renames_pure []
  | succ limit ih =>
    rw [Parser.many, Parser.many]
    exact (hp.bind fun a => ih.bind fun as => renames_pure (a :: as)).orElse (renames_pure [])

theorem renames_token (scan : Scanner) : Renames source id (token scan) (token scan) := by
  intro c
  simp only [token, Cursor.inSource]
  cases scan c.rest with
  | none => rfl
  | some result =>
    obtain ⟨taken, rest⟩ := result
    have hskip : ((c.inSource source).after taken rest).skipLayout =
        (c.after taken rest).skipLayout.inSource source := by
      rw [c.inSource_after, Cursor.inSource_skipLayout]
    exact congrArg (fun c' => some (taken, c')) hskip

theorem renames_layout : Renames source id layout layout := by
  intro c
  exact congrArg (fun c' => some ((), c')) c.inSource_skipLayout

theorem renames_atEnd : Renames source id atEnd atEnd := by
  intro c
  change (if c.rest.isEmpty = true then _ else _ : Reply Unit).outcome = _
  rw [atEnd]
  split <;> rfl

end Parser

namespace Grammar

open RecordScript.Parser

variable {source : String}

/-! ### Expressions -/

theorem renames_sign (s : String) : Renames source id (sign s) (sign s) := renames_token _

theorem renames_bareName : Renames source id bareName bareName := (renames_token _).named _

theorem renames_fieldName : Renames source id fieldName fieldName := by
  have hbare : Renames source id (NameSpelling.bare <$> bareName) (NameSpelling.bare <$> bareName) :=
    renames_bareName.map fun _ => rfl
  have hbraced : Renames source id ((fun taken => NameSpelling.braced (Token.inner taken)) <$> bracedName)
      ((fun taken => NameSpelling.braced (Token.inner taken)) <$> bracedName) :=
    ((renames_token _).named _).map fun _ => rfl
  exact hbare.orElse hbraced

theorem renames_operator {α : Type} (construct : Construct) (signs : List String)
    (op : List Char → α) :
    Renames source (Prod.map (Position.inSource source) id) (operator construct signs op)
      (operator construct signs op) :=
  renames_here.bind fun _ => ((renames_token _).named _).bind fun _ => renames_pure _

section Levels

variable {E : Parser SpelledExpr} (limit : Nat)

/-- In a source of the given name the parser reads the same expression at the same place. -/
abbrev RenamesExpr (source : String) (p : Parser SpelledExpr) : Prop :=
  Renames source (ExprOf.relocated (Position.inSource source)) p p

theorem renames_anyLiteral : RenamesExpr source anyLiteral := by
  have hliteral : ∀ construct scan spelling, RenamesExpr source (literal construct scan spelling) :=
    fun _ _ _ => renames_here.bind fun _ => ((renames_token _).named _).bind fun _ => renames_pure _
  exact (hliteral _ _ _).orElse ((hliteral _ _ _).orElse ((hliteral _ _ _).orElse (hliteral _ _ _)))

theorem renames_separated (hE : RenamesExpr source E) :
    Renames source (relocatedArgs (Position.inSource source)) (separated limit E)
      (separated limit E) := by
  have hother : RenamesExpr source (do let _ ← sign ","; E) :=
    (renames_sign ",").bind fun _ => hE
  rw [funext relocatedArgs_eq]
  exact hE.bind fun first => (hother.many limit).bind fun others => renames_pure (first :: others)

theorem renames_arguments (hE : RenamesExpr source E) :
    Renames source (relocatedArgs (Position.inSource source)) (arguments limit E)
      (arguments limit E) := by
  refine Renames.named ((renames_sign "(").bind fun _ => (renames_separated limit hE).optional.bind
    fun args => (renames_sign ")").bind fun _ => ?_) _
  cases args <;> exact renames_pure _

theorem renames_call (hE : RenamesExpr source E) :
    Renames source (Prod.map (Position.inSource source)
      (Prod.map id (relocatedArgs (Position.inSource source)))) (call limit E) (call limit E) :=
  Renames.named (renames_here.bind fun pos => renames_bareName.bind fun function =>
    (renames_arguments limit hE).bind fun args => renames_pure (pos, String.ofList function, args)) _

theorem renames_primary (hE : RenamesExpr source E) : RenamesExpr source (primary limit E) := by
  have hcall : RenamesExpr source ((fun c => .call c.1 c.2.1 c.2.2) <$> call limit E) :=
    (renames_call limit hE).map fun _ => rfl
  have hfield : RenamesExpr source fieldRead :=
    renames_here.bind fun _ => (renames_fieldName.named _).bind fun _ => renames_pure _
  have hparenthesized : RenamesExpr source (parenthesized E) :=
    (renames_sign "(").bind fun _ => hE.bind fun _ => (renames_sign ")").bind fun _ =>
      renames_pure _
  exact renames_anyLiteral.orElse (hcall.orElse (hfield.orElse hparenthesized))

theorem renames_unary (hE : RenamesExpr source E) : RenamesExpr source (unary limit E) := by
  refine Renames.named (((renames_operator _ _ _).many limit).bind fun ops =>
    (renames_primary limit hE).bind fun operand => ?_) _
  rw [← relocated_applyUnary]
  exact renames_pure _

/-- An operator with the operand behind it, with other positions. -/
def relocatedItem (f : Position → Position) (item : Position × BinaryOp × SpelledExpr) :
    Position × BinaryOp × SpelledExpr :=
  (f item.1, item.2.1, item.2.2.relocated f)

theorem renames_binaryLevel {construct opConstruct : Construct} {signs : List String}
    {operand : Parser SpelledExpr} (h : RenamesExpr source operand) :
    RenamesExpr source (binaryLevel limit construct opConstruct signs operand) := by
  have hitem : Renames source (relocatedItem (Position.inSource source))
      (do
        let op ← operator opConstruct signs binaryOp
        let right ← operand
        pure (op.1, op.2, right))
      (do
        let op ← operator opConstruct signs binaryOp
        let right ← operand
        pure (op.1, op.2, right)) :=
    (renames_operator _ _ _).bind fun _ => h.bind fun _ => renames_pure _
  have hfold : ∀ (others : List (Position × BinaryOp × SpelledExpr)) (first : SpelledExpr),
      (others.foldl (fun left item => .binary item.1 item.2.1 left item.2.2) first).relocated
          (Position.inSource source) =
        (others.map (relocatedItem (Position.inSource source))).foldl
          (fun left item => .binary item.1 item.2.1 left item.2.2)
          (first.relocated (Position.inSource source)) := by
    intro others
    induction others with
    | nil => exact fun _ => rfl
    | cons item others ih => exact fun first => ih _
  refine Renames.named (h.bind fun first => (hitem.many limit).bind fun others => ?_) _
  exact hfold others first ▸ renames_pure _

theorem renames_sum (hE : RenamesExpr source E) : RenamesExpr source (sum limit E) :=
  renames_binaryLevel limit (renames_binaryLevel limit (renames_unary limit hE))

theorem renames_comparison (hE : RenamesExpr source E) :
    RenamesExpr source (comparison limit E) := by
  have hother : Renames source (Prod.map id (ExprOf.relocated (Position.inSource source)))
      (do
        let taken ← named .compareSign (token (Token.anySign Token.compareSigns))
        let right ← sum limit E
        pure (compareOp? taken, right))
      (do
        let taken ← named .compareSign (token (Token.anySign Token.compareSigns))
        let right ← sum limit E
        pure (compareOp? taken, right)) :=
    ((renames_token _).named _).bind fun _ => (renames_sum limit hE).bind fun _ => renames_pure _
  refine Renames.named (renames_here.bind fun pos => (renames_sum limit hE).bind fun left =>
    hother.optional.bind fun other => ?_) _
  rcases other with _ | ⟨_ | op, right⟩
  · exact renames_pure _
  · exact renames_pure _
  · exact renames_pure _

theorem renames_negation (hE : RenamesExpr source E) : RenamesExpr source (negation limit E) := by
  refine Renames.named (((renames_operator _ _ _).many limit).bind fun nots =>
    (renames_comparison limit hE).bind fun operand => ?_) _
  have htree := relocated_applyNot (f := Position.inSource source) (nots.map Prod.fst) operand
  have hpositions : (nots.map Prod.fst).map (Position.inSource source) =
      (nots.map (Prod.map (Position.inSource source) id)).map Prod.fst := by
    rw [List.map_map, List.map_map]
    rfl
  rw [hpositions] at htree
  exact htree ▸ renames_pure _

theorem renames_conjunction (hE : RenamesExpr source E) :
    RenamesExpr source (conjunction limit E) := by
  have hother : RenamesExpr source (do let _ ← sign "&"; negation limit E) :=
    (renames_sign "&").bind fun _ => renames_negation limit hE
  refine Renames.named (renames_here.bind fun pos => (renames_negation limit hE).bind fun first =>
    (hother.many limit).bind fun others => ?_) _
  exact relocated_joinLogical _ pos first others ▸ renames_pure _

theorem renames_alternatives (hE : RenamesExpr source E) :
    RenamesExpr source (alternatives limit E) := by
  have hother : RenamesExpr source (do let _ ← sign "|"; conjunction limit E) :=
    (renames_sign "|").bind fun _ => renames_conjunction limit hE
  refine Renames.named (renames_here.bind fun pos => (renames_sign "|").optional.bind fun _ =>
    (renames_conjunction limit hE).bind fun first => (hother.many limit).bind fun others => ?_) _
  exact relocated_joinLogical _ pos first others ▸ renames_pure _

theorem renames_expression (depth : Nat) : RenamesExpr source (expression depth) := by
  -- each level hands the expression of the next depth on to the primary expressions
  induction depth with
  | zero => exact fun _ => rfl
  | succ depth ih => exact renames_alternatives depth ih

end Levels

/-! ### Statements -/

section Statements

variable {block : Parser (List SpelledStatement)} (limit : Nat)

/-- In a source of the given name the parser reads the same statements at the same place. -/
abbrev RenamesBlock (source : String) (p : Parser (List SpelledStatement)) : Prop :=
  Renames source (List.map (StatementOf.relocated (Position.inSource source))) p p

theorem renames_keyword (construct : Construct) (name : String) :
    Renames source id (keyword construct name) (keyword construct name) :=
  Renames.named ((renames_token _).bind fun _ => renames_pure ()) _

theorem renames_directive (construct : Construct) (mark : String) (inline : Bool) :
    Renames source (DirectiveOf.relocated (Position.inSource source))
      (directive limit construct mark inline) (directive limit construct mark inline) := by
  refine Renames.named (renames_here.bind fun position => (renames_sign mark).bind fun _ =>
    renames_bareName.bind fun name =>
      (renames_arguments limit (renames_expression limit)).optional.bind fun args => ?_) _
  cases args with
  | none => exact renames_pure (DirectiveOf.mk (String.ofList name) [] inline position)
  | some args => exact renames_pure (DirectiveOf.mk (String.ofList name) args inline position)

theorem renames_assignment :
    Renames source (StatementOf.relocated (Position.inSource source)) (assignment limit)
      (assignment limit) :=
  Renames.named (renames_here.bind fun pos => renames_fieldName.bind fun field =>
    ((renames_token _).named _).bind fun _ => (renames_expression limit).bind fun value =>
      renames_pure (StatementOf.assign pos field value)) _

theorem renames_branch {construct opening : Construct} {name : String}
    (h : RenamesBlock source block) :
    Renames source (BranchOf.relocated (Position.inSource source))
      (branch limit construct opening name block) (branch limit construct opening name block) := by
  refine Renames.named ((renames_keyword _ _).bind fun _ => (renames_expression limit).bind
    fun condition => (renames_keyword _ _).bind fun _ => h.bind fun body => ?_) _
  rw [← SpelledExpr.relocated_asCondition, ← relocatedBlock_eq]
  exact renames_pure (BranchOf.mk (SpelledExpr.asCondition condition) body)

theorem renames_rule (h : RenamesBlock source block) :
    Renames source (StatementOf.relocated (Position.inSource source)) (rule limit block)
      (rule limit block) := by
  have helse : RenamesBlock source (named .elseBranch do keyword .kwElse "else"; block) :=
    Renames.named ((renames_keyword _ _).bind fun _ => h) _
  refine Renames.named ((renames_branch limit h).bind fun first =>
    ((renames_branch limit h).many limit).bind fun others => helse.optional.bind fun otherwise =>
      (renames_keyword _ _).bind fun _ => ?_) _
  have hrule : (StatementOf.rule (first :: others) otherwise).relocated (Position.inSource source) =
      .rule (first.relocated (Position.inSource source) ::
        others.map (BranchOf.relocated (Position.inSource source)))
        (otherwise.map (List.map (StatementOf.relocated (Position.inSource source)))) := by
    cases otherwise <;> rw [StatementOf.relocated, relocatedBranches_eq] <;>
      simp [relocatedBlock_eq]
  exact hrule ▸ renames_pure _

theorem renames_statementOver (h : RenamesBlock source block) :
    Renames source (StatementOf.relocated (Position.inSource source)) (statementOver limit block)
      (statementOver limit block) := by
  have hdirective : ∀ construct mark inline,
      Renames source (StatementOf.relocated (Position.inSource source))
        (StatementOf.directive <$> directive limit construct mark inline)
        (StatementOf.directive <$> directive limit construct mark inline) :=
    fun _ _ _ => (renames_directive limit _ _ _).map fun _ => rfl
  have hcall : Renames source (StatementOf.relocated (Position.inSource source))
      ((fun c => .call c.1 c.2.1 c.2.2) <$> call limit (expression limit))
      ((fun c => .call c.1 c.2.1 c.2.2) <$> call limit (expression limit)) :=
    (renames_call limit (renames_expression limit)).map fun _ => rfl
  have hany := (renames_rule limit h).orElse ((hdirective .inlineDirective "@@" true).orElse
    ((hdirective .headerDirective "@" false).orElse ((renames_assignment limit).orElse hcall)))
  exact hany.bind fun _ => (renames_sign ";").optional.bind fun _ => renames_pure _

theorem renames_statement (depth : Nat) :
    Renames source (StatementOf.relocated (Position.inSource source)) (statement depth)
      (statement depth) := by
  induction depth with
  | zero => exact fun _ => rfl
  | succ depth ih => exact renames_statementOver depth ((ih.many depth).named _)

theorem renames_header :
    Renames source (List.map (DirectiveOf.relocated (Position.inSource source))) (header limit)
      (header limit) := by
  have hitem : Renames source (DirectiveOf.relocated (Position.inSource source))
      (do
        let d ← headerDirective limit
        let _ ← optional (sign ";")
        pure d)
      (do
        let d ← headerDirective limit
        let _ ← optional (sign ";")
        pure d) :=
    (renames_directive limit _ _ _).bind fun _ => (renames_sign ";").optional.bind fun _ =>
      renames_pure _
  exact (hitem.many limit).named _

theorem renames_program :
    Renames source (SourceFileOf.relocated (Position.inSource source)) (program limit)
      (program limit) :=
  Renames.named (renames_layout.bind fun _ => (renames_header limit).bind fun header =>
    (((renames_statement limit).many limit).named _).bind fun statements =>
      (renames_atEnd.named _).bind fun _ => renames_pure (SourceFileOf.mk header statements)) _

end Statements

end Grammar

/-- A text is read under another name as the same tree with this name in its positions. -/
theorem SourceFile.read_inSource [RegexEngine] {name text : String} {file : SourceFile}
    (h : SourceFile.read name text = .ok file) (source : String) :
    SourceFile.read source text = .ok (file.relocated (Position.inSource source)) := by
  simp only [SourceFile.read_eq, Result.bind_eq_ok] at h ⊢
  obtain ⟨spelled, hspelled, hfile⟩ := h
  obtain ⟨c, houtcome⟩ := Grammar.readSpelled_eq_ok.mp hspelled
  have hrenamed : (Grammar.program (text.toList.length + 1)
      (Cursor.start source text.toList)).outcome = _ :=
    Grammar.renames_program _ (Cursor.start name text.toList)
  rw [houtcome] at hrenamed
  have hdecode := SpelledFile.toOption_decode_relocated (f := Position.inSource source) spelled
  rw [hfile] at hdecode
  exact ⟨_, Grammar.readSpelled_eq_ok.mpr ⟨_, hrenamed⟩, Result.toOption_eq_some.mp hdecode.symm⟩

/-- The trees that are read of a text under two names are one tree with a third name in its
positions. -/
theorem SourceFile.relocated_eq_of_read [RegexEngine] {name name' text : String}
    {file file' : SourceFile}
    (h : SourceFile.read name text = .ok file) (h' : SourceFile.read name' text = .ok file')
    (source : String) :
    file.relocated (Position.inSource source) = file'.relocated (Position.inSource source) :=
  Except.ok.inj ((read_inSource h source).symm.trans (read_inSource h' source))

end RecordScript
