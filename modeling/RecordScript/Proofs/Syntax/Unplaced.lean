import RecordScript.Proofs.Syntax.Relocated

/-!
# Trees up to positions

A tree with all its positions forgotten. Two trees are equal up to positions if they become the same
tree. It is the tree with every position replaced by one and the same, so that decoding goes through
this view as well.
-/

namespace RecordScript

variable {Lit Name : Type}

mutual

/-- The expression without its positions. -/
def ExprOf.unplaced : ExprOf Lit Name → ExprOf Lit Name
  | .literal _ value => .literal default value
  | .field _ name => .field default name
  | .call _ function args => .call default function (unplacedArgs args)
  | .unary _ op operand => .unary default op operand.unplaced
  | .binary _ op left right => .binary default op left.unplaced right.unplaced
  | .logical _ op left right => .logical default op left.unplaced right.unplaced
  | .comparison _ op left right => .comparison default op left.unplaced right.unplaced
  | .pattern _ subject needle => .pattern default subject.unplaced needle.unplaced
  | .barePattern _ needle => .barePattern default needle.unplaced

/-- The expressions without their positions. -/
def unplacedArgs : List (ExprOf Lit Name) → List (ExprOf Lit Name)
  | [] => []
  | e :: es => e.unplaced :: unplacedArgs es

end

/-- The directive without positions. -/
def DirectiveOf.unplaced (d : DirectiveOf Lit Name) : DirectiveOf Lit Name :=
  { d with args := unplacedArgs d.args, position := default }

mutual

/-- The statement without its positions. -/
def StatementOf.unplaced : StatementOf Lit Name → StatementOf Lit Name
  | .assign _ field value => .assign default field value.unplaced
  | .call _ function args => .call default function (unplacedArgs args)
  | .rule branches none => .rule (unplacedBranches branches) none
  | .rule branches (some body) => .rule (unplacedBranches branches) (some (unplacedBlock body))
  | .directive d => .directive d.unplaced

/-- The statements without their positions. -/
def unplacedBlock : List (StatementOf Lit Name) → List (StatementOf Lit Name)
  | [] => []
  | s :: ss => s.unplaced :: unplacedBlock ss

/-- The branches without their positions. -/
def unplacedBranches : List (BranchOf Lit Name) → List (BranchOf Lit Name)
  | [] => []
  | .mk condition body :: branches =>
    .mk condition.unplaced (unplacedBlock body) :: unplacedBranches branches

end

/-- The branch without its positions. -/
def BranchOf.unplaced (b : BranchOf Lit Name) : BranchOf Lit Name :=
  .mk b.condition.unplaced (unplacedBlock b.body)

/-- The file without its positions. -/
def SourceFileOf.unplaced (f : SourceFileOf Lit Name) : SourceFileOf Lit Name :=
  ⟨f.header.map DirectiveOf.unplaced, f.statements.map StatementOf.unplaced⟩

section

variable [RegexEngine]

mutual

/-- The step without its positions. -/
def Step.unplaced : Step → Step
  | .assign _ field value => .assign default field value.unplaced
  | .call _ function args => .call default function (unplacedArgs args)
  | .rule arms none => .rule (unplacedArms arms) none
  | .rule arms (some body) => .rule (unplacedArms arms) (some (unplacedSteps body))

/-- The steps without their positions. -/
def unplacedSteps : List Step → List Step
  | [] => []
  | s :: ss => s.unplaced :: unplacedSteps ss

/-- The arms without their positions. -/
def unplacedArms : List Arm → List Arm
  | [] => []
  | .mk condition body :: arms => .mk condition.unplaced (unplacedSteps body) :: unplacedArms arms

end

/-- The arm without its positions. -/
def Arm.unplaced (a : Arm) : Arm := .mk a.condition.unplaced (unplacedSteps a.body)

theorem unplacedSteps_eq (ss : List Step) : unplacedSteps ss = ss.map Step.unplaced := by
  induction ss with
  | nil => rfl
  | cons s ss ih => rw [unplacedSteps, ih, List.map_cons]

theorem unplacedArms_eq (arms : List Arm) : unplacedArms arms = arms.map Arm.unplaced := by
  induction arms with
  | nil => rfl
  | cons a arms ih =>
    obtain ⟨condition, body⟩ := a
    rw [unplacedArms, ih, List.map_cons]
    rfl

end

@[simp]
theorem ExprOf.position_unplaced (e : ExprOf Lit Name) : e.unplaced.position = default := by
  cases e <;> rfl

theorem unplacedArgs_eq (es : List (ExprOf Lit Name)) : unplacedArgs es = es.map ExprOf.unplaced := by
  induction es with
  | nil => rfl
  | cons e es ih => rw [unplacedArgs, ih, List.map_cons]

theorem unplacedBlock_eq (ss : List (StatementOf Lit Name)) :
    unplacedBlock ss = ss.map StatementOf.unplaced := by
  induction ss with
  | nil => rfl
  | cons s ss ih => rw [unplacedBlock, ih, List.map_cons]

theorem unplacedBranches_eq (branches : List (BranchOf Lit Name)) :
    unplacedBranches branches = branches.map BranchOf.unplaced := by
  induction branches with
  | nil => rfl
  | cons b branches ih =>
    obtain ⟨condition, body⟩ := b
    rw [unplacedBranches, ih, List.map_cons]
    rfl

/-! ### The view as a change of positions -/

/-- The one position that is left of all. -/
def Position.forget (_ : Position) : Position := default

theorem unplacedArgs_eq_relocatedArgs_of_forall {es : List (ExprOf Lit Name)}
    (h : ∀ e ∈ es, e.unplaced = e.relocated .forget) :
    unplacedArgs es = relocatedArgs .forget es := by
  rw [unplacedArgs_eq, relocatedArgs_eq, List.map_congr_left h]

theorem ExprOf.unplaced_eq_relocated (e : ExprOf Lit Name) :
    e.unplaced = e.relocated .forget := by
  induction e using ExprOf.inductionOn with
  | literal pos value | field pos name => rfl
  | call pos function args ih =>
    rw [unplaced, relocated, unplacedArgs_eq_relocatedArgs_of_forall ih]
    rfl
  | unary pos op operand ih | barePattern pos operand ih =>
    rw [unplaced, relocated, ih]
    rfl
  | binary pos op left right ihl ihr
  | logical pos op left right ihl ihr
  | comparison pos op left right ihl ihr
  | pattern pos left right ihl ihr =>
    rw [unplaced, relocated, ihl, ihr]
    rfl

theorem unplacedArgs_eq_relocatedArgs (es : List (ExprOf Lit Name)) :
    unplacedArgs es = relocatedArgs .forget es :=
  unplacedArgs_eq_relocatedArgs_of_forall fun e _ => e.unplaced_eq_relocated

theorem DirectiveOf.unplaced_eq_relocated (d : DirectiveOf Lit Name) :
    d.unplaced = d.relocated .forget := by
  rw [unplaced, relocated, unplacedArgs_eq_relocatedArgs]
  rfl

theorem unplacedBlock_eq_relocatedBlock_of_forall {ss : List (StatementOf Lit Name)}
    (h : ∀ s ∈ ss, s.unplaced = s.relocated .forget) :
    unplacedBlock ss = relocatedBlock .forget ss := by
  rw [unplacedBlock_eq, relocatedBlock_eq, List.map_congr_left h]

theorem StatementOf.unplaced_eq_relocated (s : StatementOf Lit Name) :
    s.unplaced = s.relocated .forget := by
  induction s using StatementOf.inductionOn with
  | assign pos field value =>
    rw [unplaced, relocated, value.unplaced_eq_relocated]
    rfl
  | call pos function args =>
    rw [unplaced, relocated, unplacedArgs_eq_relocatedArgs]
    rfl
  | directive d => rw [unplaced, relocated, d.unplaced_eq_relocated]
  | rule branches otherwise ihb iho =>
    have hbranches : unplacedBranches branches = relocatedBranches .forget branches := by
      rw [unplacedBranches_eq, relocatedBranches_eq]
      apply List.map_congr_left
      intro b hb
      rw [BranchOf.unplaced, BranchOf.relocated, b.condition.unplaced_eq_relocated,
        unplacedBlock_eq_relocatedBlock_of_forall (ihb b hb)]
    cases otherwise with
    | none => rw [unplaced, relocated, hbranches]
    | some body =>
      rw [unplaced, relocated, hbranches, unplacedBlock_eq_relocatedBlock_of_forall (iho body rfl)]

theorem unplacedBlock_eq_relocatedBlock (ss : List (StatementOf Lit Name)) :
    unplacedBlock ss = relocatedBlock .forget ss :=
  unplacedBlock_eq_relocatedBlock_of_forall fun s _ => s.unplaced_eq_relocated

theorem SourceFileOf.unplaced_eq_relocated (f : SourceFileOf Lit Name) :
    f.unplaced = f.relocated .forget := by
  rw [unplaced, relocated, funext DirectiveOf.unplaced_eq_relocated,
    funext StatementOf.unplaced_eq_relocated]

variable [RegexEngine]

theorem unplacedSteps_eq_relocatedSteps_of_forall {ss : List Step}
    (h : ∀ s ∈ ss, s.unplaced = s.relocated .forget) :
    unplacedSteps ss = relocatedSteps .forget ss := by
  rw [unplacedSteps_eq, relocatedSteps_eq, List.map_congr_left h]

theorem Step.unplaced_eq_relocated (s : Step) : s.unplaced = s.relocated .forget := by
  induction s with
  | assign pos field value =>
    rw [unplaced, relocated, value.unplaced_eq_relocated]
    rfl
  | call pos function args =>
    rw [unplaced, relocated, unplacedArgs_eq_relocatedArgs]
    rfl
  | rule arms otherwise iharms ihother =>
    have harms : unplacedArms arms = relocatedArms .forget arms := by
      rw [unplacedArms_eq, relocatedArms_eq]
      apply List.map_congr_left
      intro a ha
      rw [Arm.unplaced, Arm.relocated, a.condition.unplaced_eq_relocated,
        unplacedSteps_eq_relocatedSteps_of_forall (iharms a ha)]
    cases otherwise with
    | none => rw [unplaced, relocated, harms]
    | some body =>
      rw [unplaced, relocated, harms,
        unplacedSteps_eq_relocatedSteps_of_forall (ihother body rfl)]

theorem unplacedSteps_eq_relocatedSteps (ss : List Step) :
    unplacedSteps ss = relocatedSteps .forget ss :=
  unplacedSteps_eq_relocatedSteps_of_forall fun s _ => s.unplaced_eq_relocated

/-- Decoding a file does not depend on positions. -/
theorem SpelledFile.toOption_decode_unplaced (f : SpelledFile) :
    (SpelledFile.decode f).toOption.map SourceFileOf.unplaced =
      (SpelledFile.decode f.unplaced).toOption := by
  rw [funext SourceFileOf.unplaced_eq_relocated, SourceFileOf.unplaced_eq_relocated,
    SpelledFile.toOption_decode_relocated]

end RecordScript
