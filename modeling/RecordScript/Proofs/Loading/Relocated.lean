import RecordScript.Proofs.Loading.Validity
import RecordScript.Proofs.Syntax.Unplaced

/-!
# Loading trees with other positions

Headers, imports and the preparation of steps look at positions only to report errors. What they
give for a tree with other positions is what they give for the tree, with other positions. So they
give the same up to every view that replaces positions, and also up to the one that forgets them.
-/

namespace RecordScript

open Result

variable [RegexEngine] {f : Position → Position}

/-! ### Directives -/

namespace Directive

theorem literalText?_relocated (e : Expr) : literalText? (e.relocated f) = literalText? e := by
  cases e with
  | literal pos value => cases value <;> rfl
  | _ => rfl

@[simp]
theorem texts_relocated (d : Directive) : texts (d.relocated f) = texts d := by
  have hfun : literalText? ∘ ExprOf.relocated f = literalText? := funext literalText?_relocated
  simp only [texts, DirectiveOf.relocated, relocatedArgs_eq, List.mapM_map, hfun]

@[simp]
theorem configure_relocated (config : Config) (d : Directive) :
    configure config (d.relocated f) = configure config d := by
  rw [configure, configure, texts_relocated]
  rfl

end Directive

namespace Config

theorem toOption_extend_relocated (config : Config) (seen : List String) (header : List Directive) :
    (config.extend seen (header.map (DirectiveOf.relocated f))).toOption =
      (config.extend seen header).toOption := by
  induction header generalizing config seen with
  | nil => rfl
  | cons d ds ih =>
    rw [List.map_cons, extend, extend, Directive.configure_relocated]
    change (if seen.contains d.name = true then _ else _ : Except LoadError Config).toOption = _
    split
    · rfl
    · cases d.configure config with
      | error fault => rfl
      | ok config' => exact ih config' (d.name :: seen)

/-- The configuration of a header does not depend on positions. -/
theorem toOption_ofHeader_relocated (options : LoadOptions) (header : List Directive) :
    (ofHeader options (header.map (DirectiveOf.relocated f))).toOption =
      (ofHeader options header).toOption :=
  toOption_extend_relocated _ _ header

end Config

/-! ### Expansion -/

namespace Expansion

variable {resolve : Resolver}

@[simp]
theorem importPath_relocated (d : Directive) : importPath (d.relocated f) = importPath d := by
  rw [importPath, importPath, Directive.texts_relocated]
  rfl

theorem importSource_relocated_eq_ok {dir : Option SourcePath} {d : Directive} {source : Source} :
    importSource resolve dir (d.relocated f) = .ok source ↔
      importSource resolve dir d = .ok source := by
  simp only [importSource_eq_ok, ← importPath_eq_ok, importPath_relocated]

/-- What a directive imports does not depend on positions. -/
theorem splice_relocated_gives {depth : Nat} {dir : Option SourcePath} {d : Directive}
    {stack : ImportStack} {steps : List Step} :
    (splice resolve depth dir (d.relocated f)).Gives stack steps ↔
      (splice resolve depth dir d).Gives stack steps := by
  cases depth with
  | zero => exact Iff.rfl
  | succ depth => simp only [splice_succ_gives, importSource_relocated_eq_ok]

end Expansion

/-! ### Statements -/

theorem blockDirectives_relocated_of_forall {ss : List Statement}
    (h : ∀ s ∈ ss, (s.relocated f).directives = s.directives.map (DirectiveOf.relocated f)) :
    StatementOf.blockDirectives (relocatedBlock f ss) =
      (StatementOf.blockDirectives ss).map (DirectiveOf.relocated f) := by
  induction ss with
  | nil => rfl
  | cons s ss ih =>
    obtain ⟨hs, hss⟩ := List.forall_mem_cons.mp h
    rw [relocatedBlock, StatementOf.blockDirectives, StatementOf.blockDirectives, hs, ih hss,
      List.map_append]

theorem branchDirectives_relocated_of_forall {branches : List Branch}
    (h : ∀ b ∈ branches, ∀ s ∈ b.body,
      (s.relocated f).directives = s.directives.map (DirectiveOf.relocated f)) :
    StatementOf.branchDirectives (relocatedBranches f branches) =
      (StatementOf.branchDirectives branches).map (DirectiveOf.relocated f) := by
  induction branches with
  | nil => rfl
  | cons b branches ih =>
    obtain ⟨hb, hrest⟩ := List.forall_mem_cons.mp h
    obtain ⟨condition, body⟩ := b
    have hbody := blockDirectives_relocated_of_forall hb
    rw [relocatedBranches, StatementOf.branchDirectives, StatementOf.branchDirectives, ih hrest,
      List.map_append]
    exact congrArg (· ++ _) hbody

theorem directives_relocated (s : Statement) :
    (s.relocated f).directives = s.directives.map (DirectiveOf.relocated f) := by
  induction s using StatementOf.inductionOn with
  | assign pos field value => rfl
  | call pos function args => rfl
  | directive d => rfl
  | rule branches otherwise ihb iho =>
    have hbranches := branchDirectives_relocated_of_forall ihb
    cases otherwise with
    | none =>
      simp only [StatementOf.relocated, StatementOf.directives, hbranches, List.append_nil]
    | some body =>
      simp only [StatementOf.relocated, StatementOf.directives, hbranches,
        blockDirectives_relocated_of_forall (iho body rfl), List.map_append]

/-- Statements with other positions have the directives of the statements, with other positions. -/
theorem blockDirectives_relocated (ss : List Statement) :
    StatementOf.blockDirectives (relocatedBlock f ss) =
      (StatementOf.blockDirectives ss).map (DirectiveOf.relocated f) :=
  blockDirectives_relocated_of_forall fun s _ => directives_relocated s

section Assembly

variable {steps steps' : Directive → List Step}

theorem assembleBlock_relocated_of_forall {ss : List Statement}
    (h : ∀ s ∈ ss, (∀ d ∈ s.directives, steps' (d.relocated f) = relocatedSteps f (steps d)) →
      (s.relocated f).assemble steps' = relocatedSteps f (s.assemble steps))
    (hd : ∀ d ∈ StatementOf.blockDirectives ss,
      steps' (d.relocated f) = relocatedSteps f (steps d)) :
    assembleBlock steps' (relocatedBlock f ss) = relocatedSteps f (assembleBlock steps ss) := by
  induction ss with
  | nil => rfl
  | cons s ss ih =>
    obtain ⟨hs, hss⟩ := List.forall_mem_cons.mp h
    obtain ⟨hds, hdss⟩ := List.forall_mem_append.mp hd
    rw [relocatedBlock, assembleBlock, assembleBlock, relocatedSteps_append, hs hds, ih hss hdss]

theorem assembleBranches_relocated_of_forall {branches : List Branch}
    (h : ∀ b ∈ branches, ∀ s ∈ b.body,
      (∀ d ∈ s.directives, steps' (d.relocated f) = relocatedSteps f (steps d)) →
        (s.relocated f).assemble steps' = relocatedSteps f (s.assemble steps))
    (hd : ∀ d ∈ StatementOf.branchDirectives branches,
      steps' (d.relocated f) = relocatedSteps f (steps d)) :
    assembleBranches steps' (relocatedBranches f branches) =
      relocatedArms f (assembleBranches steps branches) := by
  induction branches with
  | nil => rfl
  | cons b branches ih =>
    obtain ⟨hb, hrest⟩ := List.forall_mem_cons.mp h
    obtain ⟨condition, body⟩ := b
    obtain ⟨hbody, hdRest⟩ := List.forall_mem_append.mp hd
    have hblock := assembleBlock_relocated_of_forall hb hbody
    simp only [BranchOf.body] at hblock
    rw [relocatedBranches, assembleBranches, assembleBranches, relocatedArms, ih hrest hdRest,
      hblock]

theorem assemble_relocated {s : Statement}
    (h : ∀ d ∈ s.directives, steps' (d.relocated f) = relocatedSteps f (steps d)) :
    (s.relocated f).assemble steps' = relocatedSteps f (s.assemble steps) := by
  induction s using StatementOf.inductionOn with
  | assign pos field value => rfl
  | call pos function args => rfl
  | directive d => exact h d (List.mem_singleton_self d)
  | rule branches otherwise ihb iho =>
    cases otherwise with
    | none =>
      simp only [StatementOf.directives, List.append_nil] at h
      simp only [StatementOf.relocated, StatementOf.assemble, relocatedSteps, Step.relocated,
        assembleBranches_relocated_of_forall ihb h]
    | some body =>
      simp only [StatementOf.directives, List.forall_mem_append] at h
      simp only [StatementOf.relocated, StatementOf.assemble, relocatedSteps, Step.relocated,
        assembleBranches_relocated_of_forall ihb h.1,
        assembleBlock_relocated_of_forall (iho body rfl) h.2]

/-- Steps put in the places of directives are, up to the view, those put in the places of the
directives with other positions. -/
theorem assembleBlock_relocated {ss : List Statement}
    (h : ∀ d ∈ StatementOf.blockDirectives ss, steps' (d.relocated f) = relocatedSteps f (steps d)) :
    assembleBlock steps' (relocatedBlock f ss) = relocatedSteps f (assembleBlock steps ss) :=
  assembleBlock_relocated_of_forall (fun _ _ => assemble_relocated) h

end Assembly

namespace Expansion

variable {resolve : Resolver}

/-- The steps that a computation gives from a stack; none if it fails. -/
def stepsFrom (x : Expansion (List Step)) (stack : ImportStack) : List Step :=
  (x stack).1.toOption.getD []

theorem Gives.stepsFrom_eq {x : Expansion (List Step)} {stack : ImportStack} {steps : List Step}
    (h : x.Gives stack steps) : x.stepsFrom stack = steps := by
  rw [stepsFrom, toOption_eq_some.mpr h]
  rfl

/-- Statements that are equal up to the view give steps that are equal up to it. -/
theorem exists_expandBlock_gives_of_relocated_eq {depth : Nat} {dir : Option SourcePath}
    {stack : ImportStack} {ss ss' : List Statement} {out : List Step}
    (hss : relocatedBlock f ss = relocatedBlock f ss')
    (h : (expandBlock (splice resolve depth dir) ss).Gives stack out) :
    ∃ out', (expandBlock (splice resolve depth dir) ss').Gives stack out' ∧
      relocatedSteps f out = relocatedSteps f out' := by
  -- both blocks are assembled from one function, which reads the steps off each directive alone
  let steps (d : Directive) := (splice resolve depth dir d).stepsFrom stack
  have hsteps : ∀ d ∈ StatementOf.blockDirectives ss,
      (splice resolve depth dir d).Gives stack (steps d) ∧
        (splice resolve depth dir (d.relocated f)).Gives stack (steps d) := by
    intro d hd
    obtain ⟨given, hgiven⟩ := exists_gives_of_expandBlock (splice_balanced _ _) h d hd
    obtain rfl : steps d = given := hgiven.stepsFrom_eq
    exact ⟨hgiven, splice_relocated_gives.mpr hgiven⟩
  have hsteps' : ∀ d ∈ StatementOf.blockDirectives ss',
      (splice resolve depth dir d).Gives stack (steps d) ∧
        (splice resolve depth dir (d.relocated f)).Gives stack (steps d) := by
    intro d hd
    -- up to the view, the directive is one of the other statements
    have hmem : (d.relocated f) ∈ StatementOf.blockDirectives (relocatedBlock f ss') := by
      rw [blockDirectives_relocated]
      exact List.mem_map_of_mem hd
    rw [← hss, blockDirectives_relocated] at hmem
    obtain ⟨d', hd', heq⟩ := List.mem_map.mp hmem
    have hgiven := (hsteps d' hd').2
    rw [heq] at hgiven
    have hgiven' := splice_relocated_gives.mp hgiven
    obtain heq' : steps d = steps d' := hgiven'.stepsFrom_eq
    rw [heq']
    exact ⟨hgiven', hgiven⟩
  have hview : assembleBlock (fun d => relocatedSteps f (steps d)) (relocatedBlock f ss) =
      relocatedSteps f (assembleBlock steps ss) :=
    assembleBlock_relocated fun d hd => congrArg (relocatedSteps f) (hsteps d hd).2.stepsFrom_eq
  have hview' : assembleBlock (fun d => relocatedSteps f (steps d)) (relocatedBlock f ss') =
      relocatedSteps f (assembleBlock steps ss') :=
    assembleBlock_relocated fun d hd => congrArg (relocatedSteps f) (hsteps' d hd).2.stepsFrom_eq
  have hout : out = assembleBlock steps ss :=
    h.unique (expandBlock_gives (splice_balanced _ _) fun d hd => (hsteps d hd).1)
  refine ⟨_, expandBlock_gives (splice_balanced _ _) fun d hd => (hsteps' d hd).1, ?_⟩
  rw [hout, ← hview, ← hview', hss]

end Expansion

/-! ### Preparation -/

variable {config : Config}

theorem Value.toOption_prepare (pos pos' : Position) (v : Value) :
    (v.prepare config pos).toOption.map id = (v.prepare config pos').toOption := by
  cases v with
  | regex p =>
    rw [prepare, prepare]
    split
    · cases Pattern.ofSource p.source true <;> rfl
    · rfl
  | _ => rfl

theorem toOption_prepareCall_relocated_of_forall {args : List Expr}
    (h : ∀ arg ∈ args, (Expr.prepare config arg).toOption.map (ExprOf.relocated f) =
      (Expr.prepare config (arg.relocated f)).toOption)
    (pos : Position) (function : String) :
    (prepareCall config pos function args).toOption.map (relocatedArgs f) =
      (prepareCall config (f pos) function (relocatedArgs f args)).toOption := by
  rw [prepareCall, prepareCall]
  cases Builtin.ofName? function with
  | none => rfl
  | some builtin =>
    have hmap : (relocatedArgs f : List Expr → List Expr) = List.map (ExprOf.relocated f) :=
      funext relocatedArgs_eq
    dsimp only
    rw [hmap, List.length_map]
    split
    · rw [prepareArgs_eq, prepareArgs_eq, toOption_mapM_map h]
    · rfl

/-- An expression with other positions is prepared as the expression is, up to the view. -/
theorem Expr.toOption_prepare_relocated (e : Expr) :
    (Expr.prepare config e).toOption.map (ExprOf.relocated f) =
      (Expr.prepare config (e.relocated f)).toOption := by
  induction e using ExprOf.inductionOn with
  | literal pos value =>
    rw [prepare, ExprOf.relocated, prepare]
    exact toOption_bind_map (Value.toOption_prepare pos (f pos) value) fun _ => rfl
  | field pos name =>
    rw [prepare, ExprOf.relocated, prepare]
    rfl
  | call pos function args ih =>
    rw [prepare, ExprOf.relocated, prepare]
    exact toOption_bind_map (toOption_prepareCall_relocated_of_forall ih pos function) fun _ => rfl
  | unary pos op operand ih =>
    rw [prepare, ExprOf.relocated, prepare]
    exact toOption_bind_map ih fun _ => rfl
  | binary pos op left right ihl ihr
  | logical pos op left right ihl ihr
  | comparison pos op left right ihl ihr
  | pattern pos left right ihl ihr =>
    rw [prepare, ExprOf.relocated, prepare]
    exact toOption_bind_map ihl fun _ => toOption_bind_map ihr fun _ => rfl
  | barePattern pos needle ih =>
    rw [prepare, ExprOf.relocated, prepare]
    cases config.defaultField with
    | none => rfl
    | some field => exact toOption_bind_map ih fun _ => rfl

theorem toOption_prepareSteps_relocated_of_forall {ss : List Step}
    (h : ∀ s ∈ ss, (Step.prepare config s).toOption.map (Step.relocated f) =
      (Step.prepare config (s.relocated f)).toOption) :
    (prepareSteps config ss).toOption.map (relocatedSteps f) =
      (prepareSteps config (relocatedSteps f ss)).toOption := by
  rw [prepareSteps_eq, prepareSteps_eq, relocatedSteps_eq, ← toOption_mapM_map h]
  exact congrArg (Option.map · _) (funext relocatedSteps_eq)

theorem Step.toOption_prepare_relocated (s : Step) :
    (s.prepare config).toOption.map (Step.relocated f) =
      ((s.relocated f).prepare config).toOption := by
  induction s with
  | assign pos field value =>
    rw [prepare, Step.relocated, prepare]
    exact toOption_bind_map (Expr.toOption_prepare_relocated value) fun _ => rfl
  | call pos function args =>
    rw [prepare, Step.relocated, prepare]
    exact toOption_bind_map (toOption_prepareCall_relocated_of_forall
      (fun arg _ => Expr.toOption_prepare_relocated arg) pos function) fun _ => rfl
  | rule arms otherwise iharms ihother =>
    have ha : ∀ a ∈ arms, (Arm.prepare config a).toOption.map (Arm.relocated f) =
        (Arm.prepare config (a.relocated f)).toOption := by
      rintro ⟨condition, body⟩ ha
      exact toOption_bind_map (Expr.toOption_prepare_relocated condition) fun _ =>
        toOption_bind_map (toOption_prepareSteps_relocated_of_forall (iharms _ ha)) fun _ => rfl
    have harms : (prepareArms config arms).toOption.map (relocatedArms f) =
        (prepareArms config (relocatedArms f arms)).toOption := by
      rw [prepareArms_eq, prepareArms_eq, relocatedArms_eq, ← toOption_mapM_map ha]
      exact congrArg (Option.map · _) (funext relocatedArms_eq)
    cases otherwise with
    | none =>
      rw [prepare, Step.relocated, prepare]
      exact toOption_bind_map harms fun _ => rfl
    | some body =>
      rw [prepare, Step.relocated, prepare]
      exact toOption_bind_map harms fun _ =>
        toOption_bind_map (toOption_prepareSteps_relocated_of_forall (ihother body rfl))
          fun _ => rfl

/-- Steps with other positions are prepared as the steps are, up to the view. -/
theorem toOption_prepareSteps_relocated (config : Config) (ss : List Step) :
    (prepareSteps config ss).toOption.map (relocatedSteps f) =
      (prepareSteps config (relocatedSteps f ss)).toOption :=
  toOption_prepareSteps_relocated_of_forall fun s _ => s.toOption_prepare_relocated

/-- Steps that are equal up to the view are prepared to steps that are equal up to it. -/
theorem exists_prepareSteps_of_relocated_eq {ss ss' out : List Step}
    (hss : relocatedSteps f ss = relocatedSteps f ss') (h : prepareSteps config ss = .ok out) :
    ∃ out', prepareSteps config ss' = .ok out' ∧ relocatedSteps f out = relocatedSteps f out' := by
  have hview := toOption_prepareSteps_relocated (f := f) config ss
  rw [hss, ← toOption_prepareSteps_relocated, h] at hview
  obtain ⟨out', hout', heq⟩ := Option.map_eq_some_iff.mp hview.symm
  exact ⟨out', toOption_eq_some.mp hout', heq.symm⟩

/-! ### Whole programs -/

/-- A program is built alike from steps and from a header that are equal up to the view. -/
theorem Program.exists_built_of_relocated_eq {options : LoadOptions} {header header' : List Directive}
    {steps steps' : List Step} {p : Program}
    (hheader : header.map (DirectiveOf.relocated f) = header'.map (DirectiveOf.relocated f))
    (hsteps : relocatedSteps f steps = relocatedSteps f steps')
    (hconfig : Config.ofHeader options header = .ok p.config)
    (hprepare : prepareSteps p.config steps = .ok p.steps) :
    ∃ q : Program, Config.ofHeader options header' = .ok q.config ∧
      prepareSteps q.config steps' = .ok q.steps ∧ p.config = q.config ∧
      relocatedSteps f p.steps = relocatedSteps f q.steps := by
  have hconfig' : Config.ofHeader options header' = .ok p.config := by
    rw [← toOption_eq_some] at hconfig ⊢
    rw [← hconfig, ← Config.toOption_ofHeader_relocated, ← hheader,
      Config.toOption_ofHeader_relocated]
  obtain ⟨prepared, hprepared, hrelocated⟩ := exists_prepareSteps_of_relocated_eq hsteps hprepare
  exact ⟨⟨p.config, prepared⟩, hconfig', hprepared, rfl, hrelocated⟩

/-- Sources with the same header and with steps that expand alike are loaded alike. -/
theorem Program.exists_ofSource_of_relocated_eq {library : Library} {options : LoadOptions}
    {root root' : Source} {file file' : SourceFile}
    (hread : Expansion.readSource root = .ok file) (hread' : Expansion.readSource root' = .ok file')
    (hheader : file.header.map (DirectiveOf.relocated f) =
      file'.header.map (DirectiveOf.relocated f))
    (hexpand : ∀ out, Expansion.expand library root.id file.statements = .ok out →
      ∃ out', Expansion.expand library root'.id file'.statements = .ok out' ∧
        relocatedSteps f out = relocatedSteps f out')
    {p : Program} (h : ofSource library options root = .ok p) :
    ∃ q, ofSource library options root' = .ok q ∧ p.config = q.config ∧
      relocatedSteps f p.steps = relocatedSteps f q.steps := by
  obtain ⟨_, steps, hfile, hconfig, hsteps, hprepare⟩ := ofSource_eq_ok.mp h
  obtain rfl := Except.ok.inj (hread.symm.trans hfile)
  obtain ⟨steps', hsteps', heq⟩ := hexpand steps hsteps
  obtain ⟨q, hconfig', hprepare', hsame⟩ :=
    exists_built_of_relocated_eq hheader heq hconfig hprepare
  exact ⟨q, ofSource_eq_ok.mpr ⟨file', steps', hread', hconfig', hsteps', hprepare'⟩, hsame⟩

/-! ### Up to positions -/

theorem Expansion.importPath_unplaced (d : Directive) : importPath d.unplaced = importPath d := by
  rw [d.unplaced_eq_relocated, importPath_relocated]

/-- Statements that are equal up to positions give steps that are equal up to positions. -/
theorem Expansion.exists_expandBlock_gives_of_unplaced_eq {resolve : Resolver} {depth : Nat}
    {dir : Option SourcePath} {stack : ImportStack} {ss ss' : List Statement} {out : List Step}
    (hss : unplacedBlock ss = unplacedBlock ss')
    (h : (expandBlock (splice resolve depth dir) ss).Gives stack out) :
    ∃ out', (expandBlock (splice resolve depth dir) ss').Gives stack out' ∧
      unplacedSteps out = unplacedSteps out' := by
  simp only [unplacedBlock_eq_relocatedBlock, unplacedSteps_eq_relocatedSteps] at hss ⊢
  exact exists_expandBlock_gives_of_relocated_eq hss h

end RecordScript
