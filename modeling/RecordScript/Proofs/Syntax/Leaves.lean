import RecordScript.Proofs.Syntax.Decode

/-!
# The leaves of a tree, in the order of the text

The literals and names that a tree holds as they are spelled, and the expressions that its
statements hold. Both are listed in the order in which they stand in the text, and decoding goes
through them in this order: it fails with the problem of the first leaf that stands for nothing, and
of nothing else.
-/

namespace RecordScript

namespace Result

variable {ε α β : Type}

/-- The error of a computation that fails. -/
def failure? : Except ε α → Option ε
  | .ok _ => none
  | .error e => some e

@[simp]
theorem failure?_eq_some {x : Except ε α} {e : ε} : failure? x = some e ↔ x = .error e := by
  cases x <;> simp [failure?]

theorem failure?_eq_none {x : Except ε α} : failure? x = none ↔ ∃ a, x = .ok a := by
  cases x <;> simp [failure?]

@[simp]
theorem failure?_pure (a : α) : failure? (pure a : Except ε α) = none := rfl

@[simp]
theorem failure?_map (f : α → β) (x : Except ε α) : failure? (f <$> x) = failure? x := by
  cases x <;> rfl

/-- A computation of two parts fails as its first part does, or else as its second part does. -/
theorem failure?_bind {x : Except ε α} {f : α → Except ε β} {next : Option ε}
    (hf : ∀ a, failure? (f a) = next) : failure? (x >>= f) = (failure? x).or next := by
  cases x with
  | ok a => exact hf a
  | error e => rfl

/-- A computation over a list fails as the first of its elements does that fails. -/
theorem failure?_mapM (f : α → Except ε β) (as : List α) :
    failure? (as.mapM f) = as.findSome? fun a => failure? (f a) := by
  induction as with
  | nil => rfl
  | cons a as ih =>
    have hrest : ∀ b, failure? (do return b :: (← as.mapM f)) = failure? (as.mapM f) :=
      fun b => (failure?_bind fun _ => failure?_pure _).trans (Option.or_none ..)
    rw [List.mapM_cons, failure?_bind hrest, ih, List.findSome?_cons]
    cases failure? (f a) <;> rfl

end Result

section FindSome

variable {α β γ : Type}

theorem findSome?_flatMap (f : β → Option γ) (g : α → List β) (as : List α) :
    (as.flatMap g).findSome? f = as.findSome? fun a => (g a).findSome? f := by
  induction as with
  | nil => rfl
  | cons a as ih =>
    rw [List.flatMap_cons, List.findSome?_append, ih, List.findSome?_cons]
    cases (g a).findSome? f <;> rfl

theorem findSome?_congr {f g : α → Option β} {as : List α} (h : ∀ a ∈ as, f a = g a) :
    as.findSome? f = as.findSome? g := by
  induction as with
  | nil => rfl
  | cons a as ih =>
    obtain ⟨ha, has⟩ := List.forall_mem_cons.mp h
    rw [List.findSome?_cons, List.findSome?_cons, ha, ih has]

end FindSome

/-! ### Leaves -/

/-- A literal or a field name as it is spelled. -/
inductive Leaf where
  | literal (spelling : LiteralSpelling)
  | name (spelling : NameSpelling)
deriving DecidableEq, Repr

variable [RegexEngine]

namespace Leaf

/-- Why a leaf stands for nothing: the first bad escape of a text or of a name in braces, or what is
wrong with a pattern or with a number. -/
def problem? : Leaf → Option SyntaxProblem
  | .literal (.quoted body) => Result.failure? (Spelling.unescape true body)
  | .literal (.regex body) =>
    (Result.failure? (Pattern.ofSource (String.ofList (Spelling.unescapeRegex body)) false)).map
      .invalidRegex
  | .name (.braced body) => Result.failure? (Spelling.unescape false body)
  | .literal (.number numeral) =>
    if (Decimal.readNumeral numeral).isSome then none
    else some (.invalidNumber (Decimal.complaint numeral))
  | .literal (.boolean _) | .name (.bare _) => none

theorem problem?_literal (spelling : LiteralSpelling) :
    (literal spelling).problem? = Result.failure? spelling.decode := by
  cases spelling with
  | boolean b => rfl
  | number numeral =>
    rw [problem?, LiteralSpelling.decode]
    cases Decimal.readNumeral numeral <;> rfl
  | quoted body =>
    rw [problem?, LiteralSpelling.decode]
    cases Spelling.unescape true body <;> rfl
  | regex body =>
    rw [problem?, LiteralSpelling.decode]
    cases Pattern.ofSource (String.ofList (Spelling.unescapeRegex body)) false <;> rfl

theorem problem?_name (spelling : NameSpelling) :
    (name spelling).problem? = Result.failure? spelling.decode := by
  cases spelling with
  | bare name => rfl
  | braced body =>
    rw [problem?, NameSpelling.decode]
    cases Spelling.unescape false body <;> rfl

/-- The error of a leaf at its place. -/
def error? (l : Position × Leaf) : Option SyntaxError := l.2.problem?.map (⟨l.1, ·⟩)

end Leaf

omit [RegexEngine] in
theorem failure?_problemAt {α : Type} (pos : Position) (x : Except SyntaxProblem α) :
    Result.failure? (problemAt pos x) = (Result.failure? x).map (⟨pos, ·⟩) := by
  cases x <;> rfl

namespace SpelledExpr

/-- The leaf that a node is, at its place. -/
def leaf? : SpelledExpr → Option (Position × Leaf)
  | .literal pos spelling => some (pos, .literal spelling)
  | .field pos spelling => some (pos, .name spelling)
  | _ => none

/-- The leaves of an expression, in the order of the text. -/
def leaves (e : SpelledExpr) : List (Position × Leaf) := e.nodes.filterMap leaf?

omit [RegexEngine] in
theorem leaves_eq (e : SpelledExpr) :
    leaves e = (leaf? e).toList ++ e.children.flatMap leaves := by
  rw [leaves, ExprOf.nodes_eq, List.filterMap_cons, List.filterMap_flatMap]
  cases leaf? e <;> rfl

/-- Decoding a node decodes its children in their order, and the leaf that it is itself. -/
theorem failure?_decode_children (e : SpelledExpr) :
    Result.failure? e.decode =
      (e.leaf?.bind Leaf.error?).or (e.children.findSome? fun c => Result.failure? (decode c)) := by
  cases e with
  | literal pos spelling =>
    rw [decode, Result.failure?_bind fun _ => Result.failure?_pure _, failure?_problemAt,
      ← Leaf.problem?_literal]
    rfl
  | field pos spelling =>
    rw [decode, Result.failure?_bind fun _ => Result.failure?_pure _, failure?_problemAt,
      ← Leaf.problem?_name]
    rfl
  | call pos function args =>
    rw [decode, Result.failure?_bind fun _ => Result.failure?_pure _, Option.or_none, decodeArgs_eq,
      Result.failure?_mapM]
    rfl
  | unary pos op operand
  | barePattern pos operand =>
    rw [decode, Result.failure?_bind fun _ => Result.failure?_pure _, Option.or_none]
    simp [leaf?, ExprOf.children]
  | binary pos op left right
  | logical pos op left right
  | comparison pos op left right
  | pattern pos left right =>
    rw [decode, Result.failure?_bind fun _ => Result.failure?_bind fun _ => Result.failure?_pure _]
    simp [leaf?, ExprOf.children, List.findSome?_cons]
    cases Result.failure? (decode left) <;> cases Result.failure? (decode right) <;> rfl

/-- An expression cannot be decoded if one of its leaves stands for nothing, and the first of these
is the error. -/
theorem failure?_decode (e : SpelledExpr) :
    Result.failure? e.decode = e.leaves.findSome? Leaf.error? := by
  induction e using ExprOf.inductionOnChildren with
  | step e ih =>
    rw [failure?_decode_children, leaves_eq, List.findSome?_append, findSome?_flatMap,
      findSome?_congr ih]
    cases leaf? e <;> simp

end SpelledExpr

/-! ### Roots -/

section Roots

variable {Lit Name : Type}

mutual

/-- The expressions of a statement in the order of the text, arguments of directives too. The field
that an assignment writes to counts as one of them. -/
def StatementOf.roots : StatementOf Lit Name → List (ExprOf Lit Name)
  | .assign pos field value => [.field pos field, value]
  | .call pos function args => [.call pos function args]
  | .rule branches otherwise => branchRoots branches ++
    match otherwise with
    | some body => blockRoots body
    | none => []
  | .directive d => d.args

/-- The expressions of statements in the order of the text. -/
def blockRoots : List (StatementOf Lit Name) → List (ExprOf Lit Name)
  | [] => []
  | s :: ss => s.roots ++ blockRoots ss

/-- The expressions of branches in the order of the text. -/
def branchRoots : List (BranchOf Lit Name) → List (ExprOf Lit Name)
  | [] => []
  | .mk condition body :: branches => condition :: (blockRoots body ++ branchRoots branches)

end

/-- The expressions of a file in the order of the text. -/
def SourceFileOf.roots (file : SourceFileOf Lit Name) : List (ExprOf Lit Name) :=
  file.header.flatMap DirectiveOf.args ++ blockRoots file.statements

omit [RegexEngine] in
theorem blockRoots_eq (ss : List (StatementOf Lit Name)) :
    blockRoots ss = ss.flatMap StatementOf.roots := by
  induction ss with
  | nil => rfl
  | cons s ss ih => rw [blockRoots, ih, List.flatMap_cons]

/-- The expressions of a branch in the order of the text. -/
def BranchOf.roots (b : BranchOf Lit Name) : List (ExprOf Lit Name) :=
  b.condition :: blockRoots b.body

omit [RegexEngine] in
theorem branchRoots_eq (branches : List (BranchOf Lit Name)) :
    branchRoots branches = branches.flatMap BranchOf.roots := by
  induction branches with
  | nil => rfl
  | cons b branches ih =>
    obtain ⟨condition, body⟩ := b
    rw [branchRoots, ih, List.flatMap_cons]
    rfl

end Roots

section Decode

/-- Decoding something goes through its expressions in their order. -/
def DecodesRoots {α β : Type} (roots : α → List SpelledExpr) (roots' : β → List Expr)
    (decode : α → Except SyntaxError β) (a : α) : Prop :=
  roots' <$> decode a = (roots a).mapM SpelledExpr.decode

theorem DecodesRoots.mapM {α β : Type} {roots : α → List SpelledExpr} {roots' : β → List Expr}
    {decode : α → Except SyntaxError β} {as : List α}
    (h : ∀ a ∈ as, DecodesRoots roots roots' decode a) :
    DecodesRoots (List.flatMap roots) (List.flatMap roots') (List.mapM decode) as := by
  induction as with
  | nil => rfl
  | cons a as ih =>
    obtain ⟨ha, has⟩ := List.forall_mem_cons.mp h
    unfold DecodesRoots at ha ih ⊢
    rw [List.mapM_cons, List.flatMap_cons, List.mapM_append, ← ha, ← ih has]
    simp

theorem decodesRoots_directive (d : SpelledDirective) :
    DecodesRoots DirectiveOf.args DirectiveOf.args SpelledDirective.decode d := by
  rw [DecodesRoots, SpelledDirective.decode, decodeArgs_eq]
  simp

theorem decodesRoots_branch {b : SpelledBranch}
    (h : DecodesRoots blockRoots blockRoots decodeBlock b.body) :
    DecodesRoots BranchOf.roots BranchOf.roots SpelledBranch.decode b := by
  unfold DecodesRoots at h ⊢
  rw [SpelledBranch.decode, BranchOf.roots, List.mapM_cons, ← h]
  simp [BranchOf.roots, BranchOf.condition, BranchOf.body]

theorem decodesRoots_block_of_forall {ss : List SpelledStatement}
    (h : ∀ s ∈ ss, DecodesRoots StatementOf.roots StatementOf.roots SpelledStatement.decode s) :
    DecodesRoots blockRoots blockRoots decodeBlock ss := by
  have hmapM := DecodesRoots.mapM h
  unfold DecodesRoots at hmapM ⊢
  rw [decodeBlock_eq, blockRoots_eq, ← hmapM]
  simp only [funext blockRoots_eq]

theorem decodesRoots_statement (s : SpelledStatement) :
    DecodesRoots StatementOf.roots StatementOf.roots SpelledStatement.decode s := by
  induction s using StatementOf.inductionOn with
  | assign pos field value =>
    simp [DecodesRoots, SpelledStatement.decode, StatementOf.roots, SpelledExpr.decode]
  | call pos function args =>
    simp [DecodesRoots, SpelledStatement.decode, StatementOf.roots, SpelledExpr.decode]
  | directive d =>
    have hd := decodesRoots_directive d
    unfold DecodesRoots at hd ⊢
    rw [SpelledStatement.decode, StatementOf.roots, ← hd]
    simp [StatementOf.roots]
  | rule branches otherwise ihb iho =>
    have hb := DecodesRoots.mapM fun b hb =>
      decodesRoots_branch (decodesRoots_block_of_forall (ihb b hb))
    unfold DecodesRoots at hb ⊢
    cases otherwise with
    | none =>
      rw [SpelledStatement.decode, decodeBranches_eq, StatementOf.roots, List.append_nil,
        branchRoots_eq, ← hb]
      simp [StatementOf.roots, branchRoots_eq]
    | some body =>
      have ho := decodesRoots_block_of_forall (iho body rfl)
      rw [DecodesRoots] at ho
      rw [SpelledStatement.decode, decodeBranches_eq, StatementOf.roots, List.mapM_append,
        branchRoots_eq, ← hb, ← ho]
      simp [StatementOf.roots, branchRoots_eq]

/-- Decoding a file goes through its expressions in the order of the text. -/
theorem decodesRoots_file (file : SpelledFile) :
    DecodesRoots SourceFileOf.roots SourceFileOf.roots SpelledFile.decode file := by
  have hheader : DecodesRoots (List.flatMap DirectiveOf.args) (List.flatMap DirectiveOf.args)
      (List.mapM SpelledDirective.decode) file.header :=
    DecodesRoots.mapM fun d _ => decodesRoots_directive d
  have hstatements : DecodesRoots blockRoots blockRoots decodeBlock file.statements :=
    decodesRoots_block_of_forall fun s _ => decodesRoots_statement s
  unfold DecodesRoots at hheader hstatements ⊢
  rw [SpelledFile.decode, SourceFileOf.roots, List.mapM_append, ← hheader, ← hstatements]
  simp [SourceFileOf.roots]

end Decode

/-- The leaves of a file, in the order of the text. -/
def SpelledFile.leaves (file : SpelledFile) : List (Position × Leaf) :=
  file.roots.flatMap SpelledExpr.leaves

/-- A file cannot be decoded if one of its leaves stands for nothing, and the first of these is the
error. -/
theorem SpelledFile.failure?_decode (file : SpelledFile) :
    Result.failure? file.decode = file.leaves.findSome? Leaf.error? := by
  have hroots := decodesRoots_file file
  rw [DecodesRoots] at hroots
  rw [← Result.failure?_map SourceFileOf.roots, hroots, Result.failure?_mapM, leaves,
    findSome?_flatMap]
  simp only [SpelledExpr.failure?_decode]

end RecordScript
