import RecordScript.Proofs.Grammar.Language
import RecordScript.Proofs.Printing.Escape
import RecordScript.Proofs.Syntax.Decode

/-!
# Printing

The text of a source file: its tokens with a blank behind each of them. Every compound expression
stands in parentheses and every field name in braces, and statements follow each other without
separators.

A file is well-formed if some text can be read as it. What stands where a truth value is meant is a
matter of its own there: a literal that is a pattern stands in such a place only as a pattern without
a subject, and such a pattern stands nowhere else.
-/

namespace RecordScript

variable [RegexEngine]

/-! ### Tokens -/

/-- The literal that stands for a value; no literal stands for `none`. -/
def Value.spelled : Value → List Char
  | .none => []
  | .string s => '"' :: (Spelling.escape '"' s.toList ++ ['"'])
  | .number n => n.plainMagnitude
  | .boolean b => (truthWord b).toList
  | .regex p => '/' :: (Spelling.escapeRegex p.source.toList ++ ['/'])

/-- A field name in braces. -/
def nameInBraces (name : String) : List Char :=
  '\x7b' :: (Spelling.escape '\x7d' name.toList ++ ['\x7d'])

/-- Tokens between parentheses. -/
def inParentheses (ts : List (List Char)) : List (List Char) := ['('] :: (ts ++ [[')']])

mutual

/-- The tokens of an expression. -/
def Expr.tokens : Expr → List (List Char)
  | .literal _ value => [value.spelled]
  | .field _ name => [nameInBraces name]
  | .call _ function args => function.toList :: inParentheses (argTokens args).tail
  | .unary _ op operand => inParentheses (op.sign.toList :: Expr.tokens operand)
  | .binary _ op left right =>
    inParentheses (Expr.tokens left ++ op.sign.toList :: Expr.tokens right)
  | .logical _ op left right =>
    inParentheses (Expr.tokens left ++ op.sign.toList :: Expr.tokens right)
  | .comparison _ op left right =>
    inParentheses (Expr.tokens left ++ op.sign.toList :: Expr.tokens right)
  | .pattern _ subject needle =>
    inParentheses (Expr.tokens subject ++ ['~'] :: Expr.tokens needle)
  | .barePattern _ needle => Expr.tokens needle

/-- The tokens of arguments, each with a comma before it. -/
def argTokens : List Expr → List (List Char)
  | [] => []
  | arg :: args => [','] :: (Expr.tokens arg ++ argTokens args)

end

/-- The tokens of a directive. -/
def Directive.tokens (d : Directive) : List (List Char) :=
  (if d.inline then ['@', '@'] else ['@']) :: d.name.toList :: inParentheses (argTokens d.args).tail

mutual

/-- The tokens of a statement. -/
def Statement.tokens : Statement → List (List Char)
  | .assign _ field value => nameInBraces field :: ['='] :: Expr.tokens value
  | .call pos function args => Expr.tokens (.call pos function args)
  | .rule branches otherwise =>
    branchTokens "if" branches ++
      (match otherwise with
      | some body => "else".toList :: blockTokens body
      | none => []) ++
      ["fi".toList]
  | .directive d => Directive.tokens d

/-- The tokens of statements. -/
def blockTokens : List Statement → List (List Char)
  | [] => []
  | s :: ss => Statement.tokens s ++ blockTokens ss

/-- The tokens of branches, of which the first stands behind the given keyword. -/
def branchTokens (opening : String) : List Branch → List (List Char)
  | [] => []
  | .mk condition body :: branches =>
    opening.toList :: (Expr.tokens condition ++ "then".toList ::
      (blockTokens body ++ branchTokens "elif" branches))

end

/-- Tokens as a text, with a blank behind each of them. -/
def spaced (ts : List (List Char)) : List Char := ts.flatMap (· ++ [' '])

/-- The text of a source file. -/
def SourceFile.print (f : SourceFile) : String :=
  String.ofList (spaced (f.header.flatMap Directive.tokens ++ blockTokens f.statements))

/-! ### Well-formed files -/

/-- The names that need no braces: words that are no keywords. -/
def IsBareName (name : String) : Prop :=
  (∃ c cs, name.toList = c :: cs ∧ Token.isWordStart c = true ∧ cs.all Token.isWordChar = true) ∧
    name ∉ Token.keywords

/-- Some literal stands for the value. -/
def Value.IsSpellable : Value → Prop
  | .none => False
  | .number n => 0 ≤ n.digits ∧ 0 ≤ n.scale
  | .string _ | .boolean _ => True
  | .regex p => p.ignoreCase = false ∧ Spelling.IsRegexText p.source.toList

mutual

/-- The expression can be read; `truth` says whether it stands where a truth value is meant. -/
def Expr.IsWellFormed (truth : Bool) : Expr → Prop
  | .literal _ value => value.IsSpellable ∧ ¬ (truth = true ∧ value.isPattern = true)
  | .field _ _ => True
  | .call _ function args => IsBareName function ∧ ArgsWellFormed args
  | .unary _ op operand => Expr.IsWellFormed (op = .not) operand
  | .binary _ _ left right | .comparison _ _ left right =>
    Expr.IsWellFormed false left ∧ Expr.IsWellFormed false right
  | .logical _ _ left right => Expr.IsWellFormed true left ∧ Expr.IsWellFormed true right
  | .pattern _ subject needle => Expr.IsWellFormed false subject ∧ Expr.IsWellFormed false needle
  | .barePattern _ (.literal _ value) =>
    truth = true ∧ value.IsSpellable ∧ value.isPattern = true
  | .barePattern _ _ => False

/-- The arguments can be read. -/
def ArgsWellFormed : List Expr → Prop
  | [] => True
  | arg :: args => Expr.IsWellFormed false arg ∧ ArgsWellFormed args

end

/-- The directive can be read. -/
def Directive.IsWellFormed (d : Directive) : Prop := IsBareName d.name ∧ ArgsWellFormed d.args

mutual

/-- The statement can be read. -/
def Statement.IsWellFormed : Statement → Prop
  | .assign _ _ value => Expr.IsWellFormed false value
  | .call pos function args => Expr.IsWellFormed false (.call pos function args)
  | .rule branches otherwise =>
    branches ≠ [] ∧ BranchesWellFormed branches ∧
      match otherwise with
      | some body => BlockWellFormed body
      | none => True
  | .directive d => Directive.IsWellFormed d

/-- The statements can be read. -/
def BlockWellFormed : List Statement → Prop
  | [] => True
  | s :: ss => Statement.IsWellFormed s ∧ BlockWellFormed ss

/-- The branches can be read. -/
def BranchesWellFormed : List Branch → Prop
  | [] => True
  | .mk condition body :: branches =>
    Expr.IsWellFormed true condition ∧ BlockWellFormed body ∧ BranchesWellFormed branches

end

/-- The file can be read: directives that belong to a header stand there and nowhere before the
first statement of another kind. -/
def SourceFile.IsWellFormed (f : SourceFile) : Prop :=
  (∀ d ∈ f.header, d.inline = false ∧ Directive.IsWellFormed d) ∧ BlockWellFormed f.statements ∧
    f.IsBehindHeader

theorem argsWellFormed_iff {args : List Expr} :
    ArgsWellFormed args ↔ ∀ arg ∈ args, Expr.IsWellFormed false arg := by
  induction args with
  | nil => simp [ArgsWellFormed]
  | cons arg args ih => rw [ArgsWellFormed, ih, List.forall_mem_cons]

theorem blockWellFormed_iff {ss : List Statement} :
    BlockWellFormed ss ↔ ∀ s ∈ ss, Statement.IsWellFormed s := by
  induction ss with
  | nil => simp [BlockWellFormed]
  | cons s ss ih => rw [BlockWellFormed, ih, List.forall_mem_cons]

theorem branchesWellFormed_iff {branches : List Branch} :
    BranchesWellFormed branches ↔
      ∀ b ∈ branches, Expr.IsWellFormed true b.condition ∧ BlockWellFormed b.body := by
  induction branches with
  | nil => simp [BranchesWellFormed]
  | cons b branches ih =>
    obtain ⟨condition, body⟩ := b
    rw [BranchesWellFormed, ih, List.forall_mem_cons, and_assoc]
    rfl

theorem isWellFormed_rule_iff {branches : List Branch} {otherwise : Option (List Statement)} :
    Statement.IsWellFormed (.rule branches otherwise) ↔ branches ≠ [] ∧
      (∀ b ∈ branches, Expr.IsWellFormed true b.condition ∧ BlockWellFormed b.body) ∧
        ∀ body ∈ otherwise, BlockWellFormed body := by
  rw [← branchesWellFormed_iff]
  cases otherwise <;> simp [Statement.IsWellFormed]

end RecordScript
