import RecordScript.Pattern.PlaceEngine
import RecordScript.Proofs.Evaluation.Faults
import RecordScript.Proofs.Grammar.Place
import RecordScript.Proofs.Loading.Unfolding
import RecordScript.Proofs.Syntax.Equality

/-!
# Loaded steps

Preparing steps is rewriting their expressions node by node: patterns are compiled as the program
compares texts, bare patterns are matched against the default field, and nothing else changes. So
the evaluation of a loaded program never meets what preparation has removed.
-/

namespace RecordScript

open Result

variable [RegexEngine]

/-! ### Rewriting nodes -/

mutual

/-- The expression with the function applied to every node, from the leaves up. -/
def Expr.rewrite (f : Expr → Expr) : Expr → Expr
  | .literal pos value => f (.literal pos value)
  | .field pos name => f (.field pos name)
  | .call pos function args => f (.call pos function (rewriteArgs f args))
  | .unary pos op operand => f (.unary pos op (Expr.rewrite f operand))
  | .binary pos op left right => f (.binary pos op (Expr.rewrite f left) (Expr.rewrite f right))
  | .logical pos op left right => f (.logical pos op (Expr.rewrite f left) (Expr.rewrite f right))
  | .comparison pos op left right =>
    f (.comparison pos op (Expr.rewrite f left) (Expr.rewrite f right))
  | .pattern pos subject pattern =>
    f (.pattern pos (Expr.rewrite f subject) (Expr.rewrite f pattern))
  | .barePattern pos needle => f (.barePattern pos (Expr.rewrite f needle))

/-- The arguments with the function applied to every node. -/
def rewriteArgs (f : Expr → Expr) : List Expr → List Expr
  | [] => []
  | arg :: args => Expr.rewrite f arg :: rewriteArgs f args

end

mutual

/-- The step with the function applied to every node of its expressions, at every depth. -/
def Step.rewrite (f : Expr → Expr) : Step → Step
  | .assign pos field value => .assign pos field (Expr.rewrite f value)
  | .call pos function args => .call pos function (rewriteArgs f args)
  | .rule arms none => .rule (rewriteArms f arms) none
  | .rule arms (some body) => .rule (rewriteArms f arms) (some (rewriteSteps f body))

/-- The arms with the function applied to every node of their expressions. -/
def rewriteArms (f : Expr → Expr) : List Arm → List Arm
  | [] => []
  | .mk condition body :: arms =>
    .mk (Expr.rewrite f condition) (rewriteSteps f body) :: rewriteArms f arms

/-- The steps with the function applied to every node of their expressions. -/
def rewriteSteps (f : Expr → Expr) : List Step → List Step
  | [] => []
  | step :: steps => step.rewrite f :: rewriteSteps f steps

end

theorem rewriteArgs_eq (f : Expr → Expr) (args : List Expr) :
    rewriteArgs f args = args.map (Expr.rewrite f) := by
  induction args with
  | nil => rfl
  | cons arg args ih => rw [rewriteArgs, ih, List.map_cons]

theorem rewriteSteps_eq (f : Expr → Expr) (ss : List Step) :
    rewriteSteps f ss = ss.map (Step.rewrite f) := by
  induction ss with
  | nil => rfl
  | cons s ss ih => rw [rewriteSteps, ih, List.map_cons]

theorem rewriteArms_eq (f : Expr → Expr) (arms : List Arm) :
    rewriteArms f arms =
      arms.map fun a => .mk (Expr.rewrite f a.condition) (rewriteSteps f a.body) := by
  induction arms with
  | nil => rfl
  | cons a arms ih =>
    obtain ⟨condition, body⟩ := a
    rw [rewriteArms, ih, List.map_cons]
    rfl

/-! ### What loading does to a node -/

/-- The pattern compiled anew from its text, with or without regard to case. -/
def Pattern.compiled (ignoreCase : Bool) (p : Pattern) : Pattern :=
  match Pattern.ofSource p.source ignoreCase with
  | .ok q => q
  | .error _ => p

/-- A node of a loaded program: a pattern is compiled for the program, and a bare pattern `p` is the
match of the default field with `p`, at the place of `p`. -/
def Expr.bindNode (config : Config) : Expr → Expr
  | .literal pos (.regex p) => .literal pos (.regex (p.compiled config.caseInsensitive))
  | .barePattern pos needle =>
    match config.defaultField with
    | some field => .pattern needle.position (.field needle.position field) needle
    | none => .barePattern pos needle
  | e => e

/-- What holds of a node that has been read and not been prepared: a bare pattern stands where its
pattern stands, and patterns do not ignore case. -/
structure Expr.IsAsRead (e : Expr) : Prop where
  inPlace : e.IsInPlace
  ignoreCase : ∀ pos p, e = .literal pos (.regex p) → p.ignoreCase = false

variable {config : Config}

namespace Expr

/-- Loading keeps the places of expressions. -/
theorem position_rewrite {e : Expr} (h : e.AllInPlace) :
    (e.rewrite (bindNode config)).position = e.position := by
  induction e using ExprOf.inductionOn with
  | literal pos v => cases v <;> rfl
  | barePattern pos needle ih =>
    obtain ⟨hplace, hneedle⟩ := ExprOf.allInPlace_iff.mp h
    have hbelow := ih (hneedle needle (.head _))
    rw [rewrite, bindNode]
    split
    · exact hbelow.trans hplace
    · rfl
  | _ => rfl

/-- A pattern that does not ignore case is what its text is compiled to where case counts. -/
theorem eq_bindNode_of_prepare {pos : Position} {v v' : Value} (h : v.prepare config pos = .ok v')
    (hread : IsAsRead (.literal pos v)) : .literal pos v' = bindNode config (.literal pos v) := by
  cases v with
  | regex p =>
    rw [Value.prepare] at h
    rw [bindNode, Pattern.compiled]
    cases hcase : config.caseInsensitive with
    | true =>
      simp only [hcase, if_true] at h
      cases hcompiled : Pattern.ofSource p.source true with
      | ok q =>
        simp only [hcompiled] at h ⊢
        cases h
        rfl
      | error e =>
        simp only [hcompiled] at h
        cases h
    | false =>
      simp only [hcase, Bool.false_eq_true, if_false] at h
      cases h
      rw [Pattern.ofSource_eq_ok.mpr ⟨rfl, hread.ignoreCase pos p rfl⟩]
  | _ =>
    cases h
    rfl

/-- What preparation gives is the expression with its nodes bound. -/
theorem eq_rewrite_of_prepare {e e' : Expr} (h : e.prepare config = .ok e')
    (hread : ∀ x ∈ e.nodes, Expr.IsAsRead x) : e' = e.rewrite (bindNode config) := by
  induction e using ExprOf.inductionOn generalizing e' with
  | literal pos v =>
    simp only [prepare, bind_eq_ok, pure_eq_ok] at h
    obtain ⟨v', hv, rfl⟩ := h
    exact eq_bindNode_of_prepare hv (hread _ (List.mem_singleton_self _))
  | field pos name =>
    rw [prepare, pure_eq_ok] at h
    exact h.symm
  | call pos function args ih =>
    obtain ⟨-, hbelow⟩ := ExprOf.forall_nodes_iff.mp hread
    simp only [prepare, bind_eq_ok, pure_eq_ok, prepareCall_eq_ok] at h
    obtain ⟨args', ⟨-, hargs⟩, rfl⟩ := h
    rw [rewrite, bindNode, rewriteArgs_eq,
      eq_map_of_mapM hargs fun arg harg arg' h => ih arg harg h (hbelow arg harg)]
    all_goals rintro _ _ ⟨⟩
  | unary pos op operand ih =>
    obtain ⟨-, hbelow⟩ := ExprOf.forall_nodes_iff.mp hread
    simp only [prepare, bind_eq_ok, pure_eq_ok] at h
    obtain ⟨operand', ho, rfl⟩ := h
    obtain rfl := ih ho (hbelow operand (.head _))
    rfl
  | barePattern pos needle ih =>
    obtain ⟨hnode, hbelow⟩ := ExprOf.forall_nodes_iff.mp hread
    -- the match is placed where the bare pattern stands, which is where its pattern stands
    have hplace : ExprOf.position (rewrite (bindNode config) needle) = pos :=
      (position_rewrite fun x hx => (hbelow needle (.head _) x hx).inPlace).trans hnode.inPlace
    rw [prepare] at h
    rw [rewrite, bindNode]
    split at h
    · cases h
    · rename_i field hfield
      simp only [bind_eq_ok, pure_eq_ok] at h
      obtain ⟨needle', hneedle, rfl⟩ := h
      obtain rfl := ih hneedle (hbelow needle (.head _))
      simp only [hfield, hplace]
  | binary pos op left right ihl ihr
  | logical pos op left right ihl ihr
  | comparison pos op left right ihl ihr
  | pattern pos left right ihl ihr =>
    obtain ⟨-, hbelow⟩ := ExprOf.forall_nodes_iff.mp hread
    simp only [prepare, bind_eq_ok, pure_eq_ok] at h
    obtain ⟨left', hl, right', hr, rfl⟩ := h
    obtain rfl := ihl hl (hbelow left (.head _))
    obtain rfl := ihr hr (hbelow right (.tail _ (.head _)))
    rfl

end Expr

theorem eq_rewriteSteps_of_forall {ss ss' : List Step} (h : prepareSteps config ss = .ok ss')
    (hss : ∀ s ∈ ss, ∀ s', s.prepare config = .ok s' → s' = s.rewrite (Expr.bindNode config)) :
    ss' = rewriteSteps (Expr.bindNode config) ss := by
  rw [rewriteSteps_eq]
  exact eq_map_of_mapM (prepareSteps_eq config ss ▸ h) hss

/-- What preparation gives is the step with the nodes of its expressions bound. -/
theorem Step.eq_rewrite_of_prepare {s s' : Step} (h : s.prepare config = .ok s')
    (hread : ∀ x ∈ s.expressions, Expr.IsAsRead x) : s' = s.rewrite (Expr.bindNode config) := by
  induction s generalizing s' with
  | assign pos field value =>
    simp only [Step.prepare, bind_eq_ok, pure_eq_ok] at h
    obtain ⟨value', hv, rfl⟩ := h
    rw [Step.rewrite, Expr.eq_rewrite_of_prepare hv hread]
  | call pos function args =>
    obtain ⟨-, hbelow⟩ := ExprOf.forall_nodes_iff.mp hread
    simp only [Step.prepare, bind_eq_ok, pure_eq_ok, prepareCall_eq_ok] at h
    obtain ⟨args', ⟨-, hargs⟩, rfl⟩ := h
    rw [Step.rewrite, rewriteArgs_eq,
      eq_map_of_mapM hargs fun arg harg _ h => Expr.eq_rewrite_of_prepare h (hbelow arg harg)]
  | rule arms otherwise iharms ihother =>
    -- bodies are rewritten by the hypotheses for their steps, in the arms and behind them
    have hblock : ∀ {body body' : List Step}, prepareSteps config body = .ok body' →
        (∀ s ∈ body, ∀ {s'}, s.prepare config = .ok s' → (∀ x ∈ s.expressions, Expr.IsAsRead x) →
          s' = s.rewrite (Expr.bindNode config)) →
        Step.blockExpressions body ⊆ (Step.rule arms otherwise).expressions →
        body' = rewriteSteps (Expr.bindNode config) body := by
      intro body body' hbody ih hsubset
      exact eq_rewriteSteps_of_forall hbody fun s hs s' h => ih s hs h fun x hx =>
        hread x (hsubset (Step.expressions_subset_of_mem hs hx))
    rw [Step.prepare, bind_eq_ok] at h
    obtain ⟨arms', harms, h⟩ := h
    have harms' : arms' = rewriteArms (Expr.bindNode config) arms := by
      rw [rewriteArms_eq]
      refine eq_map_of_mapM (prepareArms_eq config arms ▸ harms) fun a ha a' h => ?_
      simp only [Arm.prepare, bind_eq_ok, pure_eq_ok] at h
      obtain ⟨condition, hcondition, body, hbody, rfl⟩ := h
      have hsubset : a.condition.nodes ++ Step.blockExpressions a.body ⊆
          (Step.rule arms otherwise).expressions := subset_expressions_of_mem_arms ha
      rw [Expr.eq_rewrite_of_prepare hcondition fun x hx =>
          hread x (hsubset (List.mem_append_left _ hx)),
        hblock hbody (fun s hs _ => iharms a ha s hs) fun x hx =>
          hsubset (List.mem_append_right _ hx)]
    cases otherwise with
    | none =>
      obtain rfl := pure_eq_ok.mp h
      rw [Step.rewrite, harms']
    | some body =>
      simp only [bind_eq_ok, pure_eq_ok] at h
      obtain ⟨body', hbody, rfl⟩ := h
      rw [Step.rewrite, harms', hblock hbody (fun s hs _ => ihother body rfl s hs) fun x hx =>
        List.mem_append_right _ hx]

/-- What preparation gives are the steps with the nodes of their expressions bound. -/
theorem eq_rewriteSteps_of_prepareSteps {ss ss' : List Step} (h : prepareSteps config ss = .ok ss')
    (hread : ∀ x ∈ Step.blockExpressions ss, Expr.IsAsRead x) :
    ss' = rewriteSteps (Expr.bindNode config) ss :=
  eq_rewriteSteps_of_forall h fun _ hs _ hprepare => Step.eq_rewrite_of_prepare hprepare fun x hx =>
    hread x (Step.expressions_subset_of_mem hs hx)

/-! ### Loaded programs -/

/-- All expressions of a source are as they are read. -/
theorem Expansion.isAsRead_of_readSource {source : Source} {file : SourceFile}
    (h : readSource source = .ok file) :
    ∀ x ∈ StatementOf.blockExpressions file.statements, Expr.IsAsRead x := by
  simp only [readSource, mapError_eq_ok] at h
  intro x hx
  refine ⟨SourceFile.isInPlace_of_read h x hx, ?_⟩
  rintro pos p rfl
  simp only [SourceFile.read_eq, bind_eq_ok] at h
  obtain ⟨spelled, -, hdecode⟩ := h
  exact SpelledFile.ignoreCase_of_decode hdecode hx

/-- All expressions of unfolded steps are as they are read. -/
theorem Unfolds.isAsRead {library : Library} {source : Source} {steps : List Step}
    (h : Unfolds library source steps) : ∀ x ∈ Step.blockExpressions steps, Expr.IsAsRead x := by
  induction h with
  | intro read imports unfolds ih =>
    intro x hx
    rcases mem_expressions_assembleBlock.mp hx with hx | ⟨d, hd, hx⟩
    · exact Expansion.isAsRead_of_readSource read x hx
    · exact ih d hd x hx

namespace Program

/-- A loaded program is its unfolded source tree, rewritten, and none of its executions can go wrong
in a way that loading rules out. Its steps are the steps of the tree with the places that they have
there; in their expressions every pattern is compiled as the program compares texts, and every bare
pattern is matched against the default field, which there is. An error of an execution is an
ordinary fault: it does not come from a bare pattern, a missing function or a wrong number of
arguments, and it stands at the place of an expression or an assignment of the steps. What an
operand resolves to has the type that was asked for, so where a text, a number or a truth value is
needed, it does not matter what would be answered for a value of another type. -/
theorem steps_eq_rewrite_and_error_ordinary {library : Library} {options : LoadOptions}
    {source : Source} {p : Program} (h : ofSource library options source = .ok p) :
    (∃ steps, Unfolds library source steps ∧
      p.steps = rewriteSteps (Expr.bindNode p.config) steps ∧
      (∀ pos q, .literal pos (.regex q) ∈ Step.blockExpressions steps →
        Pattern.ofSource q.source p.config.caseInsensitive =
          .ok (q.compiled p.config.caseInsensitive)) ∧
      ∀ pos needle, .barePattern pos needle ∈ Step.blockExpressions steps →
        needle.position = pos ∧ p.config.defaultField ≠ none) ∧
    (∀ record e, (p.execute record).error? = some e →
      e.fault.IsOrdinary ∧ ((∃ x ∈ p.expressions, x.position = e.position) ∨
        ∃ field value, .assign e.position field value ∈ stepsNested p.steps)) ∧
    (∀ (o : Operand) (type : ValueType) (v : Value), o.resolve type = .ok v → v.type = type) ∧
    ∀ (o : Operand) (arm : Value → Fault),
      o.resolveThen .string Operand.textOf? arm = o.toText ∧
      o.resolveThen .number Operand.numberOf? arm = o.toNumber ∧
      o.resolveThen .boolean Operand.booleanOf? arm = o.toBoolean := by
  obtain ⟨file, steps, hread, -, hsteps, hprepare⟩ := ofSource_eq_ok.mp h
  have hunfolds := Expansion.unfolds_of_gives hread hsteps
  have hpreparable := exists_prepareSteps_iff.mp ⟨_, hprepare⟩
  refine ⟨⟨steps, hunfolds, eq_rewriteSteps_of_prepareSteps hprepare hunfolds.isAsRead, ?_, ?_⟩,
    ?_, fun _ _ _ => Operand.type_of_resolve, ?_⟩
  · intro pos q hq
    -- where case counts the pattern has been compiled by reading it, otherwise by preparing it
    have hcompiles : ∃ q', Pattern.ofSource q.source p.config.caseInsensitive = .ok q' := by
      cases hcase : p.config.caseInsensitive with
      | true => exact hpreparable _ hq hcase
      | false =>
        exact ⟨q, Pattern.ofSource_eq_ok.mpr ⟨rfl, (hunfolds.isAsRead _ hq).ignoreCase pos q rfl⟩⟩
    obtain ⟨q', hq'⟩ := hcompiles
    rw [Pattern.compiled, hq']
  · intro pos needle hneedle
    exact ⟨(hunfolds.isAsRead _ hneedle).inPlace, hpreparable _ hneedle⟩
  · intro record e he
    exact stepsExplain_of_isPrepared (isPrepared_of_ofSource h) record e he
  · intro o arm
    exact ⟨o.resolveThen_string arm, o.resolveThen_number arm, o.resolveThen_boolean arm⟩

end Program

end RecordScript

namespace RecordScript.Program.Rewriting

/-- A program with a bare pattern and a default field. -/
def source : Source := ⟨⟨"main"⟩, "@default_field('a') b=-a&/x/"⟩

/-- The pattern of the program. -/
def needle : Expr :=
  .literal ⟨"main", 1, 26⟩
    (.regex (Regex.pattern (.leaf (.oneOf (.range 'x' 'x'))) "x" false (by cbv)))

/-- The value that the program assigns, with what stands to the right of the operator. -/
def value (right : Expr) : Expr :=
  .logical ⟨"main", 1, 23⟩ .and (.unary ⟨"main", 1, 23⟩ .minus (.field ⟨"main", 1, 24⟩ "a")) right

/-- The program as it is loaded. -/
def loaded : Program :=
  ⟨{ defaultField := some "a" }, [.assign ⟨"main", 1, 21⟩ "b"
    (value (.pattern ⟨"main", 1, 26⟩ (.field ⟨"main", 1, 26⟩ "a") needle))]⟩

theorem readSource_source : Expansion.readSource source = .ok
    ⟨[⟨"default_field", [.literal ⟨"main", 1, 16⟩ (.string "a")], false, ⟨"main", 1, 1⟩⟩],
      [.assign ⟨"main", 1, 21⟩ "b" (value (.barePattern ⟨"main", 1, 26⟩ needle))]⟩ := by
  decide +kernel

theorem prepareSteps_needle : prepareSteps loaded.config
    [.assign ⟨"main", 1, 21⟩ "b" (value (.barePattern ⟨"main", 1, 26⟩ needle))] =
      .ok loaded.steps := by
  unfold loaded value needle
  cbv

theorem ofSource_source : ofSource SourceTable.empty.toLibrary {} source = .ok loaded :=
  ofSource_eq_ok.mpr ⟨_, _, readSource_source, by rfl, by rfl, prepareSteps_needle⟩

/-- A record whose field is no number. -/
def record : Record := ⟨[("a", "y")], by decide⟩

theorem error?_execute_loaded : (loaded.execute record).error? =
    some ⟨.cast (some "a") "y" .number, ⟨"main", 1, 23⟩⟩ := by
  unfold loaded record value
  cbv

/-- In the steps of the program the bare pattern has become a match of the default field. It fails
for the record, at the sign that needs a number. -/
theorem steps_eq_rewrite_and_error_ordinary_source :
    ofSource SourceTable.empty.toLibrary {} source = .ok loaded ∧
    (∃ steps, loaded.steps = rewriteSteps (Expr.bindNode loaded.config) steps) ∧
    ∃ e, (loaded.execute record).error? = some e ∧
      e = ⟨.cast (some "a") "y" .number, ⟨"main", 1, 23⟩⟩ ∧ e.fault.IsOrdinary ∧
      ((∃ x ∈ loaded.expressions, x.position = e.position) ∨
        ∃ field value, .assign e.position field value ∈ stepsNested loaded.steps) := by
  obtain ⟨⟨steps, -, hsteps, -⟩, hexplained, -⟩ :=
    steps_eq_rewrite_and_error_ordinary ofSource_source
  exact ⟨ofSource_source, ⟨steps, hsteps⟩, _, error?_execute_loaded, rfl,
    hexplained record _ error?_execute_loaded⟩

end RecordScript.Program.Rewriting
