import RecordScript.Loading.Expansion
import RecordScript.Proofs.Result
import RecordScript.Proofs.Syntax.Tree

/-!
# What expansion gives

An expansion leaves the stack of imports as it has found it, so the directives of a program are
expanded independently of each other: statements give steps if each of their directives does, and
the steps of a directive stand in its place. How much deeper imports may be nested, and what else
stands on the stack, does not change what a directive gives.
-/

namespace RecordScript

open Result

namespace Expansion

variable {α β : Type}

/-- The computation succeeds from the given stack with the given result. -/
def Gives (x : Expansion α) (stack : ImportStack) (a : α) : Prop := (x stack).1 = .ok a

/-- The computation leaves every stack as it has found it. -/
def Balanced (x : Expansion α) : Prop := ∀ stack, (x stack).2 = stack

theorem Gives.unique {x : Expansion α} {stack : ImportStack} {a b : α} (ha : x.Gives stack a)
    (hb : x.Gives stack b) : a = b :=
  Except.ok.inj (ha.symm.trans hb)

theorem balanced_pure (a : α) : Balanced (pure a : Expansion α) := fun _ => rfl

theorem gives_pure {a b : α} {stack : ImportStack} :
    Gives (pure a : Expansion α) stack b ↔ a = b := by
  change Except.ok a = Except.ok b ↔ a = b
  exact Except.ok.injEq a b ▸ Iff.rfl

theorem Balanced.bind {x : Expansion α} {f : α → Expansion β} (hx : x.Balanced)
    (hf : ∀ a, (f a).Balanced) : (x >>= f).Balanced := by
  intro stack
  have hs := hx stack
  rw [bind_apply]
  rcases h : x stack with ⟨_ | a, s⟩ <;> rw [h] at hs
  · exact hs
  · exact (hf a s).trans hs

/-- What follows a balanced computation starts from the same stack. -/
theorem gives_bind {x : Expansion α} {f : α → Expansion β} (hx : x.Balanced) {stack : ImportStack}
    {b : β} : (x >>= f).Gives stack b ↔ ∃ a, x.Gives stack a ∧ (f a).Gives stack b := by
  have hs := hx stack
  rw [Gives, bind_apply]
  simp only [Gives]
  rcases h : x stack with ⟨_ | a, s⟩ <;> rw [h] at hs
  · simp
  · obtain rfl : s = stack := hs
    simp

variable [RegexEngine]

section Statements

variable {splice : Directive → Expansion (List Step)}

theorem expandBlock_balanced_of_forall {ss : List Statement}
    (h : ∀ s ∈ ss, (expandStatement splice s).Balanced) : (expandBlock splice ss).Balanced := by
  induction ss with
  | nil => exact balanced_pure _
  | cons s ss ih =>
    obtain ⟨hs, hss⟩ := List.forall_mem_cons.mp h
    rw [expandBlock]
    exact hs.bind fun _ => (ih hss).bind fun _ => balanced_pure _

theorem expandBranches_balanced_of_forall {branches : List Branch}
    (h : ∀ b ∈ branches, (expandBlock splice b.body).Balanced) :
    (expandBranches splice branches).Balanced := by
  induction branches with
  | nil => exact balanced_pure _
  | cons b branches ih =>
    obtain ⟨hb, hbranches⟩ := List.forall_mem_cons.mp h
    obtain ⟨condition, body⟩ := b
    rw [expandBranches]
    exact hb.bind fun _ => (ih hbranches).bind fun _ => balanced_pure _

theorem expandStatement_balanced (h : ∀ d, (splice d).Balanced) (s : Statement) :
    (expandStatement splice s).Balanced := by
  induction s using StatementOf.inductionOn with
  | assign pos field value => exact balanced_pure _
  | call pos function args => exact balanced_pure _
  | directive d => exact h d
  | rule branches otherwise ihb iho =>
    rw [expandStatement]
    refine (expandBranches_balanced_of_forall fun b hb =>
      expandBlock_balanced_of_forall (ihb b hb)).bind fun arms => ?_
    cases otherwise with
    | none => exact balanced_pure _
    | some body =>
      exact (expandBlock_balanced_of_forall (iho body rfl)).bind fun _ => balanced_pure _

/-- Statements leave the stack as it is if the expansion of directives does. -/
theorem expandBlock_balanced (h : ∀ d, (splice d).Balanced) (ss : List Statement) :
    (expandBlock splice ss).Balanced :=
  expandBlock_balanced_of_forall fun s _ => expandStatement_balanced h s

theorem expandBranches_balanced (h : ∀ d, (splice d).Balanced) (branches : List Branch) :
    (expandBranches splice branches).Balanced :=
  expandBranches_balanced_of_forall fun b _ => expandBlock_balanced h b.body

end Statements

end Expansion

namespace ImportStack

theorem isActive_push {s : ImportStack} {id other : SourcePath} :
    (s.push id).isActive other = (other.same id || s.isActive other) := rfl

@[simp]
theorem active_push {s : ImportStack} {id : SourcePath} :
    (s.push id).active = id :: s.active := rfl

/-- Removing a source that was not on the stack before restores the stack. -/
theorem pop_push {s : ImportStack} {id : SourcePath} (h : s.isActive id = false) :
    (s.push id).pop id = s := by
  obtain ⟨chain, active⟩ := s
  have hself : id.same id = true := by simp [SourcePath.same]
  have hkeep : ∀ other ∈ active, (!id.same other) = true := by
    intro other ho
    simpa using List.any_eq_false.mp h other ho
  simp [push, pop, hself, List.filter_eq_self.mpr hkeep]

end ImportStack

namespace Expansion

variable [RegexEngine] {resolve : Resolver}

omit [RegexEngine] in
theorem within_apply (id : SourcePath) (x : Expansion α) (stack : ImportStack) :
    within id x stack = ((x (stack.push id)).1, (x (stack.push id)).2.pop id) := rfl

/-- What an import does to a stack, step by step. -/
theorem splice_succ_apply (depth : Nat) (dir : Option SourcePath) (d : Directive)
    (stack : ImportStack) :
    splice resolve (depth + 1) dir d stack =
      match importSource resolve dir d with
      | .error e => (.error e, stack)
      | .ok source =>
        if stack.isActive source.id then (.error (.importCycle (stack.chain ++ [source.id])), stack)
        else
          match readSource source with
          | .error e => (.error e, stack)
          | .ok file =>
            within source.id (expandBlock (splice resolve depth source.id.parent?) file.statements)
              stack := by
  rw [splice]
  cases importSource resolve dir d with
  | error e => rfl
  | ok source =>
    change (if stack.isActive source.id = true then _ else _ : Expansion (List Step)) stack = _
    cases hactive : stack.isActive source.id with
    | true =>
      simp only [hactive, if_true]
      rfl
    | false =>
      simp only [hactive, Bool.false_eq_true, if_false]
      cases readSource source <;> rfl

/-- An import leaves the stack as it has found it. -/
theorem splice_balanced (depth : Nat) (dir : Option SourcePath) (d : Directive) :
    (splice resolve depth dir d).Balanced := by
  induction depth generalizing dir d with
  | zero => intro stack; rfl
  | succ depth ih =>
    intro stack
    rw [splice_succ_apply]
    cases importSource resolve dir d with
    | error e => rfl
    | ok source =>
      cases hactive : stack.isActive source.id with
      | true => simp [hactive]
      | false =>
        cases hread : readSource source with
        | error e => simp [hactive, hread]
        | ok file =>
          have hblock := expandBlock_balanced (ih source.id.parent?) file.statements
            (stack.push source.id)
          simp [hactive, hread, within_apply, hblock, ImportStack.pop_push hactive]

/-- An import succeeds if its source is found, is not being expanded, can be read, and its
statements can be expanded one level deeper. -/
theorem splice_succ_gives {depth : Nat} {dir : Option SourcePath} {d : Directive}
    {stack : ImportStack} {steps : List Step} :
    (splice resolve (depth + 1) dir d).Gives stack steps ↔
      ∃ source file, importSource resolve dir d = .ok source ∧
        stack.isActive source.id = false ∧ readSource source = .ok file ∧
        (expandBlock (splice resolve depth source.id.parent?) file.statements).Gives
          (stack.push source.id) steps := by
  rw [Gives, splice_succ_apply]
  cases importSource resolve dir d with
  | error e => simp
  | ok source =>
    cases hactive : stack.isActive source.id with
    | true => simp [hactive]
    | false =>
      cases hread : readSource source with
      | error e => simp [hactive, hread]
      | ok file => simp [hactive, hread, within_apply, Gives]

end Expansion

/-! ### The steps of statements -/

variable [RegexEngine]

mutual

/-- The steps that a statement stands for, where `steps` gives those of a directive. -/
def StatementOf.assemble (steps : Directive → List Step) : Statement → List Step
  | .assign pos field value => [.assign pos field value]
  | .call pos function args => [.call pos function args]
  | .directive d => steps d
  | .rule branches none => [.rule (assembleBranches steps branches) none]
  | .rule branches (some body) =>
    [.rule (assembleBranches steps branches) (some (assembleBlock steps body))]

/-- The arms that branches stand for. -/
def assembleBranches (steps : Directive → List Step) : List Branch → List Arm
  | [] => []
  | .mk condition body :: branches =>
    .mk condition (assembleBlock steps body) :: assembleBranches steps branches

/-- The steps that statements stand for. -/
def assembleBlock (steps : Directive → List Step) : List Statement → List Step
  | [] => []
  | s :: ss => s.assemble steps ++ assembleBlock steps ss

end

section Assembly

variable {steps : Directive → List Step}

omit [RegexEngine] in
/-- Two lists that are made of two parts each hold the first parts and the second parts. -/
theorem perm_append_append {α : Type} {first second own own' others others' : List α}
    (h : first.Perm (own ++ others)) (h' : second.Perm (own' ++ others')) :
    (first ++ second).Perm ((own ++ own') ++ (others ++ others')) := by
  refine (h.append h').trans ?_
  simp only [List.append_assoc]
  exact (List.perm_append_comm_assoc others own' others').append_left own

theorem expressions_assembleBlock_perm_of_forall {ss : List Statement}
    (h : ∀ s ∈ ss, (Step.blockExpressions (s.assemble steps)).Perm
      (s.expressions ++ s.directives.flatMap fun d => Step.blockExpressions (steps d))) :
    (Step.blockExpressions (assembleBlock steps ss)).Perm (StatementOf.blockExpressions ss ++
      (StatementOf.blockDirectives ss).flatMap fun d => Step.blockExpressions (steps d)) := by
  induction ss with
  | nil => exact .nil
  | cons s ss ih =>
    obtain ⟨hs, hss⟩ := List.forall_mem_cons.mp h
    rw [assembleBlock, Step.blockExpressions_append, StatementOf.blockExpressions,
      StatementOf.blockDirectives, List.flatMap_append]
    exact perm_append_append hs (ih hss)

theorem expressions_assembleBranches_perm_of_forall {branches : List Branch}
    (h : ∀ b ∈ branches, ∀ s ∈ b.body, (Step.blockExpressions (s.assemble steps)).Perm
      (s.expressions ++ s.directives.flatMap fun d => Step.blockExpressions (steps d))) :
    (Step.armExpressions (assembleBranches steps branches)).Perm
      (StatementOf.branchExpressions branches ++ (StatementOf.branchDirectives branches).flatMap
        fun d => Step.blockExpressions (steps d)) := by
  induction branches with
  | nil => exact .nil
  | cons b branches ih =>
    obtain ⟨hb, hrest⟩ := List.forall_mem_cons.mp h
    obtain ⟨condition, body⟩ := b
    have hbody := (expressions_assembleBlock_perm_of_forall hb).append_left condition.nodes
    rw [← List.append_assoc] at hbody
    rw [assembleBranches, Step.armExpressions, StatementOf.branchExpressions,
      StatementOf.branchDirectives, List.flatMap_append]
    exact perm_append_append hbody (ih hrest)

/-- The expressions of the steps of a statement are its own and those of what its directives stand
for. -/
theorem expressions_assemble_perm (s : Statement) :
    (Step.blockExpressions (s.assemble steps)).Perm
      (s.expressions ++ s.directives.flatMap fun d => Step.blockExpressions (steps d)) := by
  induction s using StatementOf.inductionOn with
  | assign pos field value =>
    simp [StatementOf.assemble, Step.blockExpressions, Step.expressions, StatementOf.expressions,
      StatementOf.directives]
  | call pos function args =>
    simp [StatementOf.assemble, Step.blockExpressions, Step.expressions, StatementOf.expressions,
      StatementOf.directives]
  | directive d => simp [StatementOf.assemble, StatementOf.expressions, StatementOf.directives]
  | rule branches otherwise ihb iho =>
    have hbranches := expressions_assembleBranches_perm_of_forall ihb
    cases otherwise with
    | none =>
      simpa [StatementOf.assemble, Step.blockExpressions, Step.expressions, StatementOf.expressions,
        StatementOf.directives] using hbranches
    | some body =>
      have hbody := expressions_assembleBlock_perm_of_forall (iho body rfl)
      simp only [StatementOf.assemble, Step.blockExpressions, Step.expressions,
        StatementOf.expressions, StatementOf.directives, List.append_nil, List.flatMap_append]
      exact perm_append_append hbranches hbody

/-- The expressions of the steps of statements are their own and those of what their directives
stand for. -/
theorem expressions_assembleBlock_perm (ss : List Statement) :
    (Step.blockExpressions (assembleBlock steps ss)).Perm (StatementOf.blockExpressions ss ++
      (StatementOf.blockDirectives ss).flatMap fun d => Step.blockExpressions (steps d)) :=
  expressions_assembleBlock_perm_of_forall fun s _ => expressions_assemble_perm s

theorem mem_expressions_assembleBlock {x : Expr} {ss : List Statement} :
    x ∈ Step.blockExpressions (assembleBlock steps ss) ↔
      x ∈ StatementOf.blockExpressions ss ∨
        ∃ d ∈ StatementOf.blockDirectives ss, x ∈ Step.blockExpressions (steps d) := by
  rw [(expressions_assembleBlock_perm ss).mem_iff, List.mem_append, List.mem_flatMap]

end Assembly

namespace Expansion

section Statements

variable {splice : Directive → Expansion (List Step)} {stack : ImportStack}
  {steps : Directive → List Step}

theorem expandBlock_gives_of_forall (hsplice : ∀ d, (splice d).Balanced) {ss : List Statement}
    (h : ∀ s ∈ ss, (∀ d ∈ s.directives, (splice d).Gives stack (steps d)) →
      (expandStatement splice s).Gives stack (s.assemble steps))
    (hd : ∀ d ∈ StatementOf.blockDirectives ss, (splice d).Gives stack (steps d)) :
    (expandBlock splice ss).Gives stack (assembleBlock steps ss) := by
  induction ss with
  | nil => exact gives_pure.mpr rfl
  | cons s ss ih =>
    obtain ⟨hs, hss⟩ := List.forall_mem_cons.mp h
    obtain ⟨hds, hdss⟩ := List.forall_mem_append.mp hd
    rw [expandBlock, gives_bind (expandStatement_balanced hsplice s)]
    refine ⟨_, hs hds, ?_⟩
    rw [gives_bind (expandBlock_balanced hsplice ss)]
    exact ⟨_, ih hss hdss, gives_pure.mpr rfl⟩

theorem expandBranches_gives_of_forall (hsplice : ∀ d, (splice d).Balanced)
    {branches : List Branch}
    (h : ∀ b ∈ branches, ∀ s ∈ b.body, (∀ d ∈ s.directives, (splice d).Gives stack (steps d)) →
      (expandStatement splice s).Gives stack (s.assemble steps))
    (hd : ∀ d ∈ StatementOf.branchDirectives branches, (splice d).Gives stack (steps d)) :
    (expandBranches splice branches).Gives stack (assembleBranches steps branches) := by
  induction branches with
  | nil => exact gives_pure.mpr rfl
  | cons b branches ih =>
    obtain ⟨hb, hrest⟩ := List.forall_mem_cons.mp h
    obtain ⟨condition, body⟩ := b
    obtain ⟨hbody, hdRest⟩ := List.forall_mem_append.mp hd
    rw [expandBranches, gives_bind (expandBlock_balanced hsplice body)]
    refine ⟨_, expandBlock_gives_of_forall hsplice hb hbody, ?_⟩
    rw [gives_bind (expandBranches_balanced hsplice branches)]
    exact ⟨_, ih hrest hdRest, gives_pure.mpr rfl⟩

/-- A statement whose directives give steps gives steps. -/
theorem expandStatement_gives (hsplice : ∀ d, (splice d).Balanced) {s : Statement}
    (h : ∀ d ∈ s.directives, (splice d).Gives stack (steps d)) :
    (expandStatement splice s).Gives stack (s.assemble steps) := by
  induction s using StatementOf.inductionOn with
  | assign pos field value => exact gives_pure.mpr rfl
  | call pos function args => exact gives_pure.mpr rfl
  | directive d => exact h d (List.mem_singleton_self d)
  | rule branches otherwise ihb iho =>
    rw [expandStatement, gives_bind (expandBranches_balanced hsplice branches)]
    cases otherwise with
    | none =>
      simp only [StatementOf.directives, List.append_nil] at h
      exact ⟨_, expandBranches_gives_of_forall hsplice ihb h, gives_pure.mpr rfl⟩
    | some body =>
      simp only [StatementOf.directives, List.forall_mem_append] at h
      refine ⟨_, expandBranches_gives_of_forall hsplice ihb h.1, ?_⟩
      dsimp only
      rw [gives_bind (expandBlock_balanced hsplice body)]
      exact ⟨_, expandBlock_gives_of_forall hsplice (iho body rfl) h.2, gives_pure.mpr rfl⟩

/-- Statements whose directives give steps give these steps in the places of the directives. -/
theorem expandBlock_gives (hsplice : ∀ d, (splice d).Balanced) {ss : List Statement}
    (h : ∀ d ∈ StatementOf.blockDirectives ss, (splice d).Gives stack (steps d)) :
    (expandBlock splice ss).Gives stack (assembleBlock steps ss) :=
  expandBlock_gives_of_forall hsplice (fun _ _ => expandStatement_gives hsplice) h

theorem exists_gives_of_expandBlock_of_forall (hsplice : ∀ d, (splice d).Balanced)
    {ss : List Statement}
    (h : ∀ s ∈ ss, ∀ out, (expandStatement splice s).Gives stack out →
      ∀ d ∈ s.directives, ∃ out, (splice d).Gives stack out)
    {out : List Step} (hss : (expandBlock splice ss).Gives stack out) :
    ∀ d ∈ StatementOf.blockDirectives ss, ∃ out, (splice d).Gives stack out := by
  induction ss generalizing out with
  | nil => simp [StatementOf.blockDirectives]
  | cons s ss ih =>
    obtain ⟨hs, hrest⟩ := List.forall_mem_cons.mp h
    rw [expandBlock, gives_bind (expandStatement_balanced hsplice s)] at hss
    obtain ⟨first, hfirst, hss⟩ := hss
    rw [gives_bind (expandBlock_balanced hsplice ss)] at hss
    obtain ⟨others, hothers, -⟩ := hss
    exact List.forall_mem_append.mpr ⟨hs first hfirst, ih hrest hothers⟩

theorem exists_gives_of_expandBranches_of_forall (hsplice : ∀ d, (splice d).Balanced)
    {branches : List Branch}
    (h : ∀ b ∈ branches, ∀ s ∈ b.body, ∀ out, (expandStatement splice s).Gives stack out →
      ∀ d ∈ s.directives, ∃ out, (splice d).Gives stack out)
    {arms : List Arm} (hbranches : (expandBranches splice branches).Gives stack arms) :
    ∀ d ∈ StatementOf.branchDirectives branches, ∃ out, (splice d).Gives stack out := by
  induction branches generalizing arms with
  | nil => simp [StatementOf.branchDirectives]
  | cons b branches ih =>
    obtain ⟨hb, hrest⟩ := List.forall_mem_cons.mp h
    obtain ⟨condition, body⟩ := b
    rw [expandBranches, gives_bind (expandBlock_balanced hsplice body)] at hbranches
    obtain ⟨first, hfirst, hbranches⟩ := hbranches
    rw [gives_bind (expandBranches_balanced hsplice branches)] at hbranches
    obtain ⟨others, hothers, -⟩ := hbranches
    exact List.forall_mem_append.mpr
      ⟨exists_gives_of_expandBlock_of_forall hsplice hb hfirst, ih hrest hothers⟩

/-- Every directive of a statement that gives steps gives steps. -/
theorem exists_gives_of_expandStatement (hsplice : ∀ d, (splice d).Balanced) {s : Statement}
    {out : List Step} (h : (expandStatement splice s).Gives stack out) :
    ∀ d ∈ s.directives, ∃ out, (splice d).Gives stack out := by
  induction s using StatementOf.inductionOn generalizing out with
  | assign pos field value => simp [StatementOf.directives]
  | call pos function args => simp [StatementOf.directives]
  | directive d =>
    intro d' hd'
    obtain rfl := List.mem_singleton.mp hd'
    exact ⟨out, h⟩
  | rule branches otherwise ihb iho =>
    rw [expandStatement, gives_bind (expandBranches_balanced hsplice branches)] at h
    obtain ⟨arms, harms, h⟩ := h
    have hbranches := exists_gives_of_expandBranches_of_forall hsplice
      (fun b hb s hs _ => ihb b hb s hs) harms
    cases otherwise with
    | none => simpa only [StatementOf.directives, List.append_nil] using hbranches
    | some body =>
      dsimp only at h
      rw [gives_bind (expandBlock_balanced hsplice body)] at h
      obtain ⟨steps, hsteps, -⟩ := h
      simp only [StatementOf.directives, List.forall_mem_append]
      exact ⟨hbranches,
        exists_gives_of_expandBlock_of_forall hsplice (fun s hs _ => iho body rfl s hs) hsteps⟩

/-- Every directive of statements that give steps gives steps. -/
theorem exists_gives_of_expandBlock (hsplice : ∀ d, (splice d).Balanced) {ss : List Statement}
    {out : List Step} (h : (expandBlock splice ss).Gives stack out) :
    ∀ d ∈ StatementOf.blockDirectives ss, ∃ out, (splice d).Gives stack out :=
  exists_gives_of_expandBlock_of_forall hsplice
    (fun _ _ _ => exists_gives_of_expandStatement hsplice) h

/-- Statements give what comes of putting the steps of the directives in their places, if every
directive gives steps. -/
theorem expandBlock_gives_iff (hsplice : ∀ d, (splice d).Balanced) {ss : List Statement}
    {out : List Step} :
    (expandBlock splice ss).Gives stack out ↔
      ∃ steps, (∀ d ∈ StatementOf.blockDirectives ss, (splice d).Gives stack (steps d)) ∧
        assembleBlock steps ss = out := by
  constructor
  · intro h
    choose! steps hsteps using exists_gives_of_expandBlock hsplice h
    exact ⟨steps, hsteps, (expandBlock_gives hsplice hsteps).unique h⟩
  · rintro ⟨steps, hsteps, rfl⟩
    exact expandBlock_gives hsplice hsteps

/-- Statements keep what they give if their directives do. -/
theorem Gives.expandBlock_mono {splice' : Directive → Expansion (List Step)} {stack' : ImportStack}
    {ss : List Statement} {out : List Step} (h : (expandBlock splice ss).Gives stack out)
    (hsplice : ∀ d, (splice d).Balanced) (hsplice' : ∀ d, (splice' d).Balanced)
    (hd : ∀ d out, (splice d).Gives stack out → (splice' d).Gives stack' out) :
    (expandBlock splice' ss).Gives stack' out := by
  obtain ⟨steps, hsteps, rfl⟩ := (expandBlock_gives_iff hsplice).mp h
  exact expandBlock_gives hsplice' fun d hmem => hd d _ (hsteps d hmem)

/-- Statements behind each other give their steps behind each other. -/
theorem expandBlock_append_gives (hsplice : ∀ d, (splice d).Balanced) {ss ts : List Statement}
    {out : List Step} :
    (expandBlock splice (ss ++ ts)).Gives stack out ↔
      ∃ first others, (expandBlock splice ss).Gives stack first ∧
        (expandBlock splice ts).Gives stack others ∧ first ++ others = out := by
  induction ss generalizing out with
  | nil => simp [expandBlock, gives_pure]
  | cons s ss ih =>
    simp only [List.cons_append, expandBlock, gives_bind (expandStatement_balanced hsplice _),
      gives_bind (expandBlock_balanced hsplice _), gives_pure, ih]
    grind

end Statements

end Expansion

end RecordScript
