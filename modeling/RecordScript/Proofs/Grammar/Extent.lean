import RecordScript.Proofs.Spelled.Statement
import RecordScript.Proofs.Grammar.Parser
import RecordScript.Proofs.Grammar.Spans

/-!
# The extent of what is read

Whatever a parser of the grammar reads, its expressions span the text between the cursor at which it
starts and the cursor behind it. The proofs follow the parsers step by step with a postcondition on
what has been read and on the cursor that has been reached.
-/

namespace RecordScript

namespace Parser

theorem always_token {scan : Scanner} (hscan : scan.IsToken) (c : Cursor) :
    Always (token scan) c fun taken c' =>
      ∃ behind, scan c.rest = some (taken, behind) ∧ c.Steps taken behind c' := by
  intro taken c' h
  unfold token at h
  split at h
  · rename_i behind htaken
    cases h
    exact ⟨behind, htaken, (hscan.split htaken).symm, rfl⟩
  · cases h

end Parser

namespace Grammar

open RecordScript.Parser

/-- The expressions of what the parser reads span the text up to the cursor behind it. -/
def Spanning {α : Type} (roots : α → List SpelledExpr) (p : Parser α) : Prop :=
  ∀ c, Always p c fun a c' => Spans c (roots a) c'

/-- The expression that is read spans the text up to the cursor behind it. -/
abbrev SpanningExpr (p : Parser SpelledExpr) : Prop := Spanning (fun e => [e]) p

section Spanning

variable {α : Type} {roots : α → List SpelledExpr} {p q : Parser α}

theorem Spanning.orElse (hp : Spanning roots p) (hq : Spanning roots q) :
    Spanning roots (p <|> q) := fun c => (hp c).orElse (hq c)

theorem Spanning.named (hp : Spanning roots p) (construct : Construct) :
    Spanning roots (named construct p) := fun c => (hp c).named construct

theorem Spanning.map {β : Type} {g : α → β} {roots' : β → List SpelledExpr}
    (hp : Spanning (fun a => roots' (g a)) p) : Spanning roots' (g <$> p) :=
  fun c => Always.map (Q := fun b c' => Spans c (roots' b) c') (hp c)

theorem Spanning.many (hp : Spanning roots p) (limit : Nat) :
    Spanning (List.flatMap roots) (many limit p) := by
  refine fun c => always_many (R := fun c as c' => Spans c (as.flatMap roots) c') hp
    (fun c => .tokens (.nil c)) (fun ha has => ?_) limit c
  rw [List.flatMap_cons]
  exact ha.append has

theorem Spanning.optional (hp : Spanning roots p) :
    Spanning (fun o => (o.map roots).getD []) (optional p) :=
  fun c => (hp c).optional (.tokens (.nil c))

end Spanning

/-! ### Tokens -/

theorem spanning_token {scan : Scanner} (hscan : scan.IsToken)
    (hplain : ∀ {cs taken behind}, scan cs = some (taken, behind) → Token.IsPlain taken behind) :
    Spanning (fun _ => []) (token scan) := by
  intro c taken c' h
  obtain ⟨behind, htaken, hstep⟩ := always_token hscan c h
  exact .tokens (.of_plain (hplain htaken) hstep)

theorem isSign_of_mem_signs {s : String} (hs : s ∈ Token.signs) : Token.IsSign s :=
  (by decide : ∀ s ∈ Token.signs, Token.IsSign s) s hs

theorem spanning_sign {s : String} (hs : s ∈ Token.signs) : Spanning (fun _ => []) (sign s) :=
  spanning_token (Token.isToken_sign (isSign_of_mem_signs hs)) (Token.isPlain_of_sign hs)

theorem spanning_keyword {s : String} (hs : s ∈ Token.markers) (construct : Construct) :
    Spanning (fun _ => []) (keyword construct s) := fun c =>
  Always.named ((spanning_token (Token.isToken_keyword s) (Token.isPlain_of_keyword hs) c).bind
    fun _ _ h => always_pure (P := fun _ c' => Spans c [] c') h) construct

theorem always_bareName (c : Cursor) :
    Always bareName c fun taken c' =>
      ∃ behind, Token.IsName taken behind ∧ c.Steps taken behind c' :=
  Always.named (fun _ _ h => (always_token Token.isToken_name c h).imp fun _ hbehind =>
    ⟨Token.isName_of_name hbehind.1, hbehind.2⟩) _

theorem always_fieldName (c : Cursor) :
    Always fieldName c fun spelling c' => Spans c [.field c.position spelling] c' := by
  refine Always.orElse (Always.map fun taken c' h => ?_) (Always.map (Always.named ?_ _))
  · obtain ⟨behind, hname, hstep⟩ := always_bareName c h
    exact .field (.bare hname) hstep
  · intro taken c' h
    obtain ⟨behind, htaken, hstep⟩ := always_token Token.isToken_bracedName c h
    exact .field (Token.isWritten_of_bracedName htaken) hstep

theorem always_operator {α : Type} {signs : List String} (hsigns : ∀ s ∈ signs, s ∈ Token.signs)
    (construct : Construct) (op : List Char → α) (c : Cursor) :
    Always (operator construct signs op) c fun found c' => found.1 = c.position ∧
      ∃ s ∈ signs, found.2 = op s.toList ∧ ∃ behind, c.Steps s.toList behind c' := by
  have htoken : Token.anySign signs |>.IsToken :=
    Token.isToken_anySign fun s hs => isSign_of_mem_signs (hsigns s hs)
  refine always_here_bind ((Always.named (always_token htoken c) _).bind fun taken c' h => ?_)
  obtain ⟨behind, htaken, hstep⟩ := h
  obtain ⟨s, hs, hsign⟩ := Token.exists_sign_of_anySign htaken
  obtain ⟨rfl, -⟩ := Token.sign_eq_some.mp hsign
  exact always_pure ⟨rfl, s, hs, rfl, behind, hstep⟩

/-! ### Expressions -/

theorem spanning_literal {scan : Scanner} {spelling : List Char → LiteralSpelling}
    (hscan : scan.IsToken) (hwritten : ∀ {cs taken behind}, scan cs = some (taken, behind) →
      Leaf.IsWritten (.literal (spelling taken)) taken behind) (construct : Construct) :
    SpanningExpr (literal construct scan spelling) := fun c =>
  always_here_bind ((Always.named (always_token hscan c) _).bind fun _ _ h => by
    obtain ⟨behind, htaken, hstep⟩ := h
    exact always_pure (.literal (hwritten htaken) hstep))

theorem spanning_anyLiteral : SpanningExpr anyLiteral :=
  (spanning_literal Token.isToken_boolean Token.isWritten_of_boolean _).orElse
    ((spanning_literal Token.isToken_number Token.isWritten_of_number _).orElse
      ((spanning_literal Token.isToken_quoted Token.isWritten_of_quoted _).orElse
        (spanning_literal Token.isToken_regex Token.isWritten_of_regex _)))

/-- A literal that becomes a bare pattern stands where it has stood. -/
theorem spans_asCondition {c c' : Cursor} {e : SpelledExpr} (h : Spans c [e] c') :
    Spans c [SpelledExpr.asCondition e] c' := by
  cases e with
  | literal pos spelling =>
    rw [SpelledExpr.asCondition]
    split
    · exact .barePattern h
    · exact h
  | _ => exact h

section Levels

variable {limit : Nat} {E : Parser SpelledExpr}

theorem spanning_separated (hE : SpanningExpr E) : Spanning id (separated limit E) := by
  have hother : SpanningExpr (do let _ ← sign ","; E) := fun c =>
    (spanning_sign (by decide) c).bind fun _ mid hsign => fun e c' he => hsign.append (hE mid he)
  refine fun c => (hE c).bind fun first mid hfirst => (hother.many limit mid).bind
    fun others c' hothers => always_pure ?_
  rw [List.flatMap_singleton'] at hothers
  exact hfirst.append hothers

theorem spanning_arguments (hE : SpanningExpr E) : Spanning id (arguments limit E) := by
  refine Spanning.named (fun c => (spanning_sign (by decide) c).bind fun _ mid hopen =>
    ((spanning_separated hE).optional mid).bind fun args mid' hargs =>
      (spanning_sign (by decide) mid').bind fun _ c' hclose => always_pure ?_) _
  have hall := hopen.append (hargs.append hclose)
  rw [List.nil_append, List.append_nil, Option.map_id] at hall
  exact hall

theorem spanning_call (hE : SpanningExpr E) :
    Spanning (fun found => [.call found.1 found.2.1 found.2.2]) (call limit E) := by
  refine Spanning.named (fun c => always_here_bind ((always_bareName c).bind
    fun function mid hname => (spanning_arguments hE mid).bind fun args c' hargs =>
      always_pure ?_)) _
  obtain ⟨behind, hword, hstep⟩ := hname
  rw [← String.toList_ofList (l := function)] at hword hstep
  exact .call hword hstep hargs

theorem spanning_fieldRead : SpanningExpr fieldRead := fun c =>
  always_here_bind (((always_fieldName c).named _).bind fun _ _ h => always_pure h)

theorem spanning_parenthesized (hE : SpanningExpr E) : SpanningExpr (parenthesized E) := fun c =>
  (spanning_sign (by decide) c).bind fun _ mid hopen => (hE mid).bind fun _ mid' he =>
    (spanning_sign (by decide) mid').bind fun _ _ hclose =>
      always_pure (hopen.append (he.append hclose))

theorem spanning_primary (hE : SpanningExpr E) : SpanningExpr (primary limit E) := by
  have hcall : SpanningExpr ((fun found => .call found.1 found.2.1 found.2.2) <$> call limit E) :=
    Spanning.map (spanning_call hE)
  exact spanning_anyLiteral.orElse
    (hcall.orElse (spanning_fieldRead.orElse (spanning_parenthesized hE)))

/-- Operators that are read before an operand span the text together with it. -/
theorem always_operators {α : Type} {construct : Construct} {signs : List String}
    {op : List Char → α} {tree : List (Position × α) → SpelledExpr → SpelledExpr}
    (hsigns : ∀ s ∈ signs, s ∈ Token.signs) (hnil : ∀ e, tree [] e = e)
    (hcons : ∀ {c behind mid s ops e c'}, s ∈ signs → c.Steps s.toList behind mid →
      Spans mid [tree ops e] c' → Spans c [tree ((c.position, op s.toList) :: ops) e] c')
    (hE : SpanningExpr E) :
    SpanningExpr (do
      let ops ← many limit (operator construct signs op)
      let operand ← E
      pure (tree ops operand)) := by
  -- The operators wait for the operand behind them: the last one is the innermost.
  have hops := always_many (always_operator hsigns construct op)
    (R := fun c ops c' => ∀ {e last}, Spans c' [e] last → Spans c [tree ops e] last)
    (fun c e last h => (hnil e).symm ▸ h) fun {c found mid ops c'} hfound hops => by
      obtain ⟨pos, a⟩ := found
      obtain ⟨rfl, s, hs, rfl, behind, hstep⟩ := hfound
      exact fun h => hcons hs hstep (hops h)
  exact fun c => (hops limit c).bind fun _ mid hspans => (hE mid).bind fun _ _ he =>
    always_pure (hspans he)

theorem spanning_unary (hE : SpanningExpr E) : SpanningExpr (unary limit E) := by
  refine Spanning.named (always_operators (by decide) (fun _ => rfl) (fun hs hstep h => ?_)
    (spanning_primary hE)) _
  have hsign : ∀ s ∈ ["+", "-"],
      (if s.toList = ['-'] then UnaryOp.minus else UnaryOp.plus).sign = s := by decide
  exact .unary ((hsign _ hs).symm ▸ hstep) h

theorem spanning_binaryLevel {signs : List String} (hsigns : ∀ s ∈ signs, s ∈ Token.signs)
    (hop : ∀ s ∈ signs, (binaryOp s.toList).sign = s) {operand : Parser SpelledExpr}
    (h : SpanningExpr operand) (construct opConstruct : Construct) :
    SpanningExpr (binaryLevel limit construct opConstruct signs operand) := by
  have hitem : ∀ c, Always (do
      let op ← operator opConstruct signs binaryOp
      let right ← operand
      pure (op.1, op.2, right)) c fun item c' => item.1 = c.position ∧
        ∃ behind mid, c.Steps item.2.1.sign.toList behind mid ∧ Spans mid [item.2.2] c' := by
    refine fun c => (always_operator hsigns opConstruct binaryOp c).bind fun op mid hfound =>
      (h mid).bind fun right c' hright => always_pure ?_
    obtain ⟨hpos, s, hs, hsign, behind, hstep⟩ := hfound
    exact ⟨hpos, behind, mid, by rw [hsign, hop s hs]; exact hstep, hright⟩
  -- Whatever has been read to the left is the left operand of the first of the other items.
  have hothers := always_many hitem
    (R := fun c others c' => ∀ {first left}, Spans first [left] c → Spans first
      [others.foldl (fun left other => .binary other.1 other.2.1 left other.2.2) left] c')
    (fun _ _ _ hleft => hleft) fun {c item mid others c'} hitem hothers => by
      obtain ⟨pos, op, right⟩ := item
      obtain ⟨rfl, behind, mid', hstep, hright⟩ := hitem
      exact fun hleft => hothers (.binary hleft hstep hright)
  exact Spanning.named (fun c => (h c).bind fun _ mid hfirst => (hothers limit mid).bind
    fun _ _ hspans => always_pure (hspans hfirst)) _

theorem spanning_product (hE : SpanningExpr E) : SpanningExpr (product limit E) :=
  spanning_binaryLevel (by decide) (by decide) (spanning_unary hE) _ _

theorem spanning_sum (hE : SpanningExpr E) : SpanningExpr (sum limit E) :=
  spanning_binaryLevel (by decide) (by decide) (spanning_product hE) _ _

theorem spanning_compareSign (construct : Construct) :
    Spanning (fun _ => []) (named construct (token (Token.anySign Token.compareSigns))) := by
  have hsigns : ∀ s ∈ Token.compareSigns, s ∈ Token.signs := by decide
  refine Spanning.named (spanning_token
    (Token.isToken_anySign fun s hs => isSign_of_mem_signs (hsigns s hs)) fun htaken => ?_) _
  obtain ⟨s, hs, hsign⟩ := Token.exists_sign_of_anySign htaken
  exact Token.isPlain_of_sign (hsigns s hs) hsign

theorem spanning_comparison (hE : SpanningExpr E) : SpanningExpr (comparison limit E) := by
  have hother : Spanning (fun other => [other.2]) (do
      let taken ← named .compareSign (token (Token.anySign Token.compareSigns))
      let right ← sum limit E
      pure (compareOp? taken, right)) := fun c =>
    (spanning_compareSign _ c).bind fun _ mid hsign => (spanning_sum hE mid).bind
      fun _ _ hright => always_pure (hsign.append hright)
  refine Spanning.named (fun c => always_here_bind ((spanning_sum hE c).bind
    fun left mid hleft => (hother.optional mid).bind fun other c' hright => ?_)) _
  rcases other with _ | ⟨_ | op, right⟩
  · exact always_pure (hleft.append hright)
  · exact always_pure (.pattern (hleft.append hright))
  · exact always_pure (.comparison op (hleft.append hright))

theorem spanning_negation (hE : SpanningExpr E) : SpanningExpr (negation limit E) := by
  have hcons : ∀ {c behind mid s} {nots : List (Position × Unit)} {e c'}, s ∈ ["!"] →
      c.Steps s.toList behind mid → Spans mid [applyNot (nots.map Prod.fst) e] c' →
      Spans c [applyNot (((c.position, ()) :: nots).map Prod.fst) e] c' := by
    intro c behind mid s nots e c' hs hstep h
    obtain rfl := List.mem_singleton.mp hs
    exact Spans.unary (show c.Steps UnaryOp.not.sign.toList behind mid from hstep)
      (spans_asCondition h)
  exact Spanning.named
    (always_operators (by decide) (fun _ => rfl) hcons (spanning_comparison hE)) _

/-- Operands with signs between them span the text together with the operands before them. -/
theorem spanning_joined {mark : String} (hmark : mark ∈ Token.signs) (op : LogicalOp)
    {operand : Parser SpelledExpr} (h : SpanningExpr operand) {c mid : Cursor}
    {first : SpelledExpr} (hfirst : Spans c [first] mid) :
    Always (do
      let others ← many limit (do let _ ← sign mark; operand)
      pure (joinLogical op c.position first others)) mid fun e c' => Spans c [e] c' := by
  have hother : SpanningExpr (do let _ ← sign mark; operand) := fun c =>
    (spanning_sign hmark c).bind fun _ mid hsign => fun e c' he => hsign.append (h mid he)
  -- All operators of the chain have the position at which its first operand starts.
  have hothers := always_many hother
    (R := fun mid others c' => ∀ {left}, Spans c [left] mid → Spans c [others.foldl
      (fun left right => .logical c.position op left (SpelledExpr.asCondition right)) left] c')
    (fun _ _ hleft => hleft) fun hright hothers _ hleft =>
      hothers (.logical op (hleft.append (spans_asCondition hright)))
  refine (hothers limit mid).bind fun others c' hspans => always_pure ?_
  cases others with
  | nil => exact hspans hfirst
  | cons other others => exact hspans (spans_asCondition hfirst)

theorem spanning_conjunction (hE : SpanningExpr E) : SpanningExpr (conjunction limit E) :=
  Spanning.named (fun c => always_here_bind ((spanning_negation hE c).bind fun _ _ hfirst =>
    spanning_joined (by decide) .and (spanning_negation hE) hfirst)) _

theorem spanning_alternatives (hE : SpanningExpr E) : SpanningExpr (alternatives limit E) := by
  have hbar : Spanning (fun o => (o.map fun _ => []).getD []) (optional (sign "|")) :=
    (spanning_sign (by decide)).optional
  refine Spanning.named (fun c => always_here_bind ((hbar c).bind fun bar mid hopen =>
    (spanning_conjunction hE mid).bind fun _ _ hfirst =>
      spanning_joined (by decide) .or (spanning_conjunction hE) ?_)) _
  cases bar <;> exact hopen.append hfirst

end Levels

/-- An expression that is read spans the text up to the cursor behind it. -/
theorem spanning_expression (depth : Nat) : SpanningExpr (expression depth) := by
  induction depth with
  | zero => exact fun _ _ _ h => by cases h
  | succ depth ih => exact spanning_alternatives ih

/-! ### Statements -/

section Statements

variable (limit : Nat)

theorem spanning_directive {mark : String} (hmark : mark ∈ Token.signs) (construct : Construct)
    (inline : Bool) : Spanning DirectiveOf.args (directive limit construct mark inline) := by
  refine Spanning.named (fun c => always_here_bind ((spanning_sign hmark c).bind
    fun _ mid hmark => (always_bareName mid).bind fun _ mid' hname =>
      ((spanning_arguments (spanning_expression limit)).optional mid').bind
        fun args c' hargs => always_pure ?_)) _
  obtain ⟨behind, hword, hstep⟩ := hname
  rw [Option.map_id] at hargs
  exact hmark.append ((Spans.tokens (.of_plain (.name hword) hstep)).append hargs)

theorem spanning_assignment : Spanning StatementOf.roots (assignment limit) := by
  have hsign : Spanning (fun _ => []) (named .assignSign (token Token.assignSign)) :=
    (spanning_token Token.isToken_assignSign fun h =>
      (Token.assignSign_eq_some.mp h).1 ▸ .sign (s := "=") (by decide) _).named _
  refine Spanning.named (fun c => always_here_bind ((always_fieldName c).bind fun _ mid hfield =>
    (hsign mid).bind fun _ mid' hsign => (spanning_expression limit mid').bind
      fun _ c' hvalue => always_pure ?_)) _
  exact hfield.append (hsign.append hvalue)

variable {block : Parser (List SpelledStatement)}

theorem spanning_branch (h : Spanning blockRoots block) {name : String}
    (hname : name ∈ Token.markers) (construct opening : Construct) :
    Spanning BranchOf.roots (branch limit construct opening name block) := by
  refine Spanning.named (fun c => (spanning_keyword hname opening c).bind fun _ mid hif =>
    (spanning_expression limit mid).bind fun condition mid' hcondition =>
      (spanning_keyword (by decide) _ mid').bind fun _ mid'' hthen =>
        (h mid'').bind fun body c' hbody => always_pure ?_) _
  exact hif.append ((spans_asCondition hcondition).append (hthen.append hbody))

theorem spanning_rule (h : Spanning blockRoots block) :
    Spanning StatementOf.roots (rule limit block) := by
  have helse : Spanning blockRoots (named .elseBranch do keyword .kwElse "else"; block) :=
    Spanning.named (fun c => (spanning_keyword (by decide) _ c).bind fun _ mid helse =>
      fun _ _ hbody => helse.append (h mid hbody)) _
  refine Spanning.named (fun c => (spanning_branch limit h (by decide) _ _ c).bind
    fun first mid hfirst => ((spanning_branch limit h (by decide) _ _).many limit mid).bind
      fun others mid' hothers => (helse.optional mid').bind fun otherwise mid'' hotherwise =>
        (spanning_keyword (by decide) _ mid'').bind fun _ c' hfi => always_pure ?_) _
  have hall := (hfirst.append hothers).append (hotherwise.append hfi)
  rw [List.append_nil, ← List.flatMap_cons, ← branchRoots_eq] at hall
  cases otherwise <;> exact hall

theorem spanning_statementOver (h : Spanning blockRoots block) :
    Spanning StatementOf.roots (statementOver limit block) := by
  have hinline : Spanning StatementOf.roots (StatementOf.directive <$> inlineDirective limit) :=
    Spanning.map (spanning_directive limit (by decide) _ _)
  have hheader : Spanning StatementOf.roots (StatementOf.directive <$> headerDirective limit) :=
    Spanning.map (spanning_directive limit (by decide) _ _)
  have hcall : Spanning StatementOf.roots ((fun found => .call found.1 found.2.1 found.2.2) <$>
      call limit (expression limit)) :=
    Spanning.map (spanning_call (spanning_expression limit))
  have hany := (spanning_rule limit h).orElse (hinline.orElse (hheader.orElse
    ((spanning_assignment limit).orElse hcall)))
  refine fun c => (hany c).bind fun s mid hs => ((spanning_sign (by decide)).optional mid).bind
    fun semicolon c' hsemicolon => always_pure ?_
  cases semicolon <;> exact List.append_nil s.roots ▸ hs.append hsemicolon

theorem spanning_statement (depth : Nat) : Spanning StatementOf.roots (statement depth) := by
  induction depth with
  | zero => exact fun _ _ _ h => by cases h
  | succ depth ih =>
    have hblock : Spanning blockRoots (named .block (many depth (statement depth))) := by
      rw [funext blockRoots_eq]
      exact (ih.many depth).named _
    exact spanning_statementOver depth hblock

theorem spanning_header : Spanning (List.flatMap DirectiveOf.args) (header limit) := by
  refine Spanning.named (Spanning.many (fun c =>
    (spanning_directive limit (by decide) _ _ c).bind fun d mid hd =>
      ((spanning_sign (by decide)).optional mid).bind fun semicolon c' hsemicolon =>
        always_pure ?_) limit) _
  cases semicolon <;> exact List.append_nil d.args ▸ hd.append hsemicolon

/-- The expressions of a program span its text up to the end. -/
theorem always_program (c : Cursor) :
    Always (program limit) c fun file last =>
      Spans c.skipLayout file.roots last ∧ last.rest = [] := by
  have hlayout : Always layout c fun _ c' => c' = c.skipLayout := by
    rintro _ _ ⟨⟩
    rfl
  have hend : ∀ c, Always (named .endOfInput atEnd) c fun _ c' => c' = c ∧ c.rest = [] := by
    refine fun c => Always.named (fun _ c' h => ?_) _
    unfold atEnd at h
    split at h
    · cases h
      exact ⟨rfl, List.isEmpty_iff.mp ‹_›⟩
    · cases h
  refine Always.named (hlayout.bind fun _ start hstart => (spanning_header limit start).bind
    fun directives mid hheader => (((spanning_statement limit).many limit).named _ mid).bind
      fun statements mid' hstatements => (hend mid').bind fun _ last hlast => always_pure ?_) _
  obtain ⟨rfl, hrest⟩ := hlast
  rw [← blockRoots_eq] at hstatements
  exact ⟨hstart ▸ hheader.append hstatements, hrest⟩

end Statements

end Grammar

end RecordScript
