import RecordScript.Proofs.Syntax.Decode

/-!
# Trees with other positions

A tree with each of its positions replaced by its image under a function. Decoding looks at positions
only to report errors, so it goes through every such view.
-/

namespace RecordScript

open Result

variable [RegexEngine] {Lit Name : Type} (f : Position → Position)

mutual

/-- The expression with other positions. -/
def ExprOf.relocated : ExprOf Lit Name → ExprOf Lit Name
  | .literal pos value => .literal (f pos) value
  | .field pos name => .field (f pos) name
  | .call pos function args => .call (f pos) function (relocatedArgs args)
  | .unary pos op operand => .unary (f pos) op operand.relocated
  | .binary pos op left right => .binary (f pos) op left.relocated right.relocated
  | .logical pos op left right => .logical (f pos) op left.relocated right.relocated
  | .comparison pos op left right => .comparison (f pos) op left.relocated right.relocated
  | .pattern pos subject needle => .pattern (f pos) subject.relocated needle.relocated
  | .barePattern pos needle => .barePattern (f pos) needle.relocated

/-- The expressions with other positions. -/
def relocatedArgs : List (ExprOf Lit Name) → List (ExprOf Lit Name)
  | [] => []
  | e :: es => e.relocated :: relocatedArgs es

end

/-- The directive with other positions. -/
def DirectiveOf.relocated (d : DirectiveOf Lit Name) : DirectiveOf Lit Name :=
  { d with args := relocatedArgs f d.args, position := f d.position }

mutual

/-- The statement with other positions. -/
def StatementOf.relocated : StatementOf Lit Name → StatementOf Lit Name
  | .assign pos field value => .assign (f pos) field (value.relocated f)
  | .call pos function args => .call (f pos) function (relocatedArgs f args)
  | .rule branches none => .rule (relocatedBranches branches) none
  | .rule branches (some body) => .rule (relocatedBranches branches) (some (relocatedBlock body))
  | .directive d => .directive (d.relocated f)

/-- The statements with other positions. -/
def relocatedBlock : List (StatementOf Lit Name) → List (StatementOf Lit Name)
  | [] => []
  | s :: ss => s.relocated :: relocatedBlock ss

/-- The branches with other positions. -/
def relocatedBranches : List (BranchOf Lit Name) → List (BranchOf Lit Name)
  | [] => []
  | .mk condition body :: branches =>
    .mk (condition.relocated f) (relocatedBlock body) :: relocatedBranches branches

end

/-- The branch with other positions. -/
def BranchOf.relocated (b : BranchOf Lit Name) : BranchOf Lit Name :=
  .mk (b.condition.relocated f) (relocatedBlock f b.body)

/-- The file with other positions. -/
def SourceFileOf.relocated (file : SourceFileOf Lit Name) : SourceFileOf Lit Name :=
  ⟨file.header.map (DirectiveOf.relocated f), file.statements.map (StatementOf.relocated f)⟩

mutual

/-- The step with other positions. -/
def Step.relocated : Step → Step
  | .assign pos field value => .assign (f pos) field (value.relocated f)
  | .call pos function args => .call (f pos) function (relocatedArgs f args)
  | .rule arms none => .rule (relocatedArms arms) none
  | .rule arms (some body) => .rule (relocatedArms arms) (some (relocatedSteps body))

/-- The steps with other positions. -/
def relocatedSteps : List Step → List Step
  | [] => []
  | s :: ss => s.relocated :: relocatedSteps ss

/-- The arms with other positions. -/
def relocatedArms : List Arm → List Arm
  | [] => []
  | .mk condition body :: arms =>
    .mk (condition.relocated f) (relocatedSteps body) :: relocatedArms arms

end

/-- The arm with other positions. -/
def Arm.relocated (a : Arm) : Arm := .mk (a.condition.relocated f) (relocatedSteps f a.body)

variable {f}

omit [RegexEngine] in
theorem relocatedArgs_eq (es : List (ExprOf Lit Name)) :
    relocatedArgs f es = es.map (ExprOf.relocated f) := by
  induction es with
  | nil => rfl
  | cons e es ih => rw [relocatedArgs, ih, List.map_cons]

omit [RegexEngine] in
theorem relocatedBlock_eq (ss : List (StatementOf Lit Name)) :
    relocatedBlock f ss = ss.map (StatementOf.relocated f) := by
  induction ss with
  | nil => rfl
  | cons s ss ih => rw [relocatedBlock, ih, List.map_cons]

omit [RegexEngine] in
theorem relocatedBranches_eq (branches : List (BranchOf Lit Name)) :
    relocatedBranches f branches = branches.map (BranchOf.relocated f) := by
  induction branches with
  | nil => rfl
  | cons b branches ih =>
    obtain ⟨condition, body⟩ := b
    rw [relocatedBranches, ih, List.map_cons]
    rfl

theorem relocatedSteps_eq (ss : List Step) : relocatedSteps f ss = ss.map (Step.relocated f) := by
  induction ss with
  | nil => rfl
  | cons s ss ih => rw [relocatedSteps, ih, List.map_cons]

theorem relocatedSteps_append (ss ts : List Step) :
    relocatedSteps f (ss ++ ts) = relocatedSteps f ss ++ relocatedSteps f ts := by
  simp only [relocatedSteps_eq, List.map_append]

theorem relocatedArms_eq (arms : List Arm) : relocatedArms f arms = arms.map (Arm.relocated f) := by
  induction arms with
  | nil => rfl
  | cons a arms ih =>
    obtain ⟨condition, body⟩ := a
    rw [relocatedArms, ih, List.map_cons]
    rfl

/-! ### Decoding -/

omit [RegexEngine] in
theorem toOption_problemAt {α : Type} (pos pos' : Position) (x : Except SyntaxProblem α) :
    (problemAt pos x).toOption.map id = (problemAt pos' x).toOption := by
  cases x <;> rfl

theorem toOption_decodeArgs_relocated_of_forall {args : List SpelledExpr}
    (h : ∀ arg ∈ args, (SpelledExpr.decode arg).toOption.map (ExprOf.relocated f) =
      (SpelledExpr.decode (arg.relocated f)).toOption) :
    (decodeArgs args).toOption.map (relocatedArgs f) =
      (decodeArgs (relocatedArgs f args)).toOption := by
  rw [decodeArgs_eq, decodeArgs_eq, relocatedArgs_eq, ← toOption_mapM_map h]
  exact congrArg (Option.map · _) (funext relocatedArgs_eq)

/-- An expression with other positions is decoded as the expression is. -/
theorem SpelledExpr.toOption_decode_relocated (e : SpelledExpr) :
    (SpelledExpr.decode e).toOption.map (ExprOf.relocated f) =
      (SpelledExpr.decode (e.relocated f)).toOption := by
  induction e using ExprOf.inductionOn with
  | literal pos spelling | field pos spelling =>
    rw [decode, ExprOf.relocated, decode]
    exact toOption_bind_map (toOption_problemAt pos (f pos) spelling.decode) fun _ => rfl
  | call pos function args ih =>
    rw [decode, ExprOf.relocated, decode]
    exact toOption_bind_map (toOption_decodeArgs_relocated_of_forall ih) fun _ => rfl
  | unary pos op operand ih | barePattern pos operand ih =>
    rw [decode, ExprOf.relocated, decode]
    exact toOption_bind_map ih fun _ => rfl
  | binary pos op left right ihl ihr
  | logical pos op left right ihl ihr
  | comparison pos op left right ihl ihr
  | pattern pos left right ihl ihr =>
    rw [decode, ExprOf.relocated, decode]
    exact toOption_bind_map ihl fun _ => toOption_bind_map ihr fun _ => rfl

theorem toOption_decodeArgs_relocated (args : List SpelledExpr) :
    (decodeArgs args).toOption.map (relocatedArgs f) =
      (decodeArgs (relocatedArgs f args)).toOption :=
  toOption_decodeArgs_relocated_of_forall fun arg _ => arg.toOption_decode_relocated

theorem SpelledDirective.toOption_decode_relocated (d : SpelledDirective) :
    (SpelledDirective.decode d).toOption.map (DirectiveOf.relocated f) =
      (SpelledDirective.decode (d.relocated f)).toOption :=
  toOption_bind_map (toOption_decodeArgs_relocated d.args) fun _ => rfl

theorem toOption_decodeBlock_relocated_of_forall {ss : List SpelledStatement}
    (h : ∀ s ∈ ss, (SpelledStatement.decode s).toOption.map (StatementOf.relocated f) =
      (SpelledStatement.decode (s.relocated f)).toOption) :
    (decodeBlock ss).toOption.map (relocatedBlock f) =
      (decodeBlock (relocatedBlock f ss)).toOption := by
  rw [decodeBlock_eq, decodeBlock_eq, relocatedBlock_eq, ← toOption_mapM_map h]
  exact congrArg (Option.map · _) (funext relocatedBlock_eq)

theorem SpelledStatement.toOption_decode_relocated (s : SpelledStatement) :
    (SpelledStatement.decode s).toOption.map (StatementOf.relocated f) =
      (SpelledStatement.decode (s.relocated f)).toOption := by
  induction s using StatementOf.inductionOn with
  | assign pos field value =>
    rw [decode, StatementOf.relocated, decode]
    exact toOption_bind_map (toOption_problemAt pos (f pos) field.decode) fun _ =>
      toOption_bind_map (SpelledExpr.toOption_decode_relocated value) fun _ => rfl
  | call pos function args =>
    rw [decode, StatementOf.relocated, decode]
    exact toOption_bind_map (toOption_decodeArgs_relocated args) fun _ => rfl
  | directive d =>
    rw [decode, StatementOf.relocated, decode]
    exact toOption_bind_map (SpelledDirective.toOption_decode_relocated d) fun _ => rfl
  | rule branches otherwise ihb iho =>
    have hb : ∀ b ∈ branches, (SpelledBranch.decode b).toOption.map (BranchOf.relocated f) =
        (SpelledBranch.decode (b.relocated f)).toOption := by
      rintro ⟨condition, body⟩ hb
      exact toOption_bind_map (SpelledExpr.toOption_decode_relocated condition) fun _ =>
        toOption_bind_map (toOption_decodeBlock_relocated_of_forall (ihb _ hb)) fun _ => rfl
    have hbranches : (decodeBranches branches).toOption.map (relocatedBranches f) =
        (decodeBranches (relocatedBranches f branches)).toOption := by
      rw [decodeBranches_eq, decodeBranches_eq, relocatedBranches_eq, ← toOption_mapM_map hb]
      exact congrArg (Option.map · _) (funext relocatedBranches_eq)
    cases otherwise with
    | none =>
      rw [decode, StatementOf.relocated, decode]
      exact toOption_bind_map hbranches fun _ => rfl
    | some body =>
      rw [decode, StatementOf.relocated, decode]
      exact toOption_bind_map hbranches fun _ =>
        toOption_bind_map (toOption_decodeBlock_relocated_of_forall (iho body rfl)) fun _ => rfl

/-- A file with other positions is decoded as the file is. -/
theorem SpelledFile.toOption_decode_relocated (file : SpelledFile) :
    (SpelledFile.decode file).toOption.map (SourceFileOf.relocated f) =
      (SpelledFile.decode (file.relocated f)).toOption := by
  have hheader := toOption_mapM_map fun d (_ : d ∈ file.header) =>
    SpelledDirective.toOption_decode_relocated (f := f) d
  have hstatements := toOption_mapM_map fun s (_ : s ∈ file.statements) =>
    SpelledStatement.toOption_decode_relocated (f := f) s
  simp only [SpelledFile.decode, SourceFileOf.relocated, decodeBlock_eq]
  exact toOption_bind_map hheader fun _ => toOption_bind_map hstatements fun _ => rfl

end RecordScript
