import RecordScript.Syntax.Spelling

/-!
# Decoding

Replaces the spellings in a tree by what they stand for, in the order in which they stand in the
text. The first spelling that stands for nothing is the error, at the place of its node.
-/

namespace RecordScript

variable [RegexEngine]

namespace LiteralSpelling

/-- Whether a literal alone can stand for a truth value, as a pattern without a subject. -/
def isPattern : LiteralSpelling → Bool
  | quoted _ | regex _ => true
  | _ => false

end LiteralSpelling

/-- An expression as it is spelled. -/
abbrev SpelledExpr := ExprOf LiteralSpelling NameSpelling

/-- A directive as it is spelled. -/
abbrev SpelledDirective := DirectiveOf LiteralSpelling NameSpelling

/-- A statement as it is spelled. -/
abbrev SpelledStatement := StatementOf LiteralSpelling NameSpelling

/-- A branch as it is spelled. -/
abbrev SpelledBranch := BranchOf LiteralSpelling NameSpelling

/-- A source file as it is spelled. -/
abbrev SpelledFile := SourceFileOf LiteralSpelling NameSpelling

mutual

/-- The expression that a spelled expression stands for. -/
def SpelledExpr.decode : SpelledExpr → Except SyntaxError Expr
  | .literal pos spelling => do return .literal pos (← problemAt pos spelling.decode)
  | .field pos spelling => do return .field pos (← problemAt pos spelling.decode)
  | .call pos function args => do return .call pos function (← decodeArgs args)
  | .unary pos op operand => do return .unary pos op (← SpelledExpr.decode operand)
  | .binary pos op left right => do
    let left ← SpelledExpr.decode left
    let right ← SpelledExpr.decode right
    return .binary pos op left right
  | .logical pos op left right => do
    let left ← SpelledExpr.decode left
    let right ← SpelledExpr.decode right
    return .logical pos op left right
  | .comparison pos op left right => do
    let left ← SpelledExpr.decode left
    let right ← SpelledExpr.decode right
    return .comparison pos op left right
  | .pattern pos subject pattern => do
    let subject ← SpelledExpr.decode subject
    let pattern ← SpelledExpr.decode pattern
    return .pattern pos subject pattern
  | .barePattern pos pattern => do return .barePattern pos (← SpelledExpr.decode pattern)

/-- The expressions that a list of spelled arguments stands for. -/
def decodeArgs : List SpelledExpr → Except SyntaxError (List Expr)
  | [] => return []
  | arg :: args => do
    let arg ← SpelledExpr.decode arg
    let args ← decodeArgs args
    return arg :: args

end

/-- The directive that a spelled directive stands for. -/
def SpelledDirective.decode (d : SpelledDirective) : Except SyntaxError Directive := do
  return { name := d.name, args := ← decodeArgs d.args, inline := d.inline, position := d.position }

mutual

/-- The statement that a spelled statement stands for. -/
def SpelledStatement.decode : SpelledStatement → Except SyntaxError Statement
  | .assign pos spelling value => do
    let field ← problemAt pos spelling.decode
    return .assign pos field (← SpelledExpr.decode value)
  | .call pos function args => do return .call pos function (← decodeArgs args)
  | .rule branches otherwise => do
    let branches ← decodeBranches branches
    match otherwise with
    | some body => return .rule branches (some (← decodeBlock body))
    | none => return .rule branches none
  | .directive d => do return .directive (← SpelledDirective.decode d)

/-- The statements that a list of spelled statements stands for. -/
def decodeBlock : List SpelledStatement → Except SyntaxError (List Statement)
  | [] => return []
  | statement :: statements => do
    let statement ← SpelledStatement.decode statement
    let statements ← decodeBlock statements
    return statement :: statements

/-- The branches that a list of spelled branches stands for. -/
def decodeBranches : List SpelledBranch → Except SyntaxError (List Branch)
  | [] => return []
  | .mk condition body :: branches => do
    let condition ← SpelledExpr.decode condition
    let body ← decodeBlock body
    let branches ← decodeBranches branches
    return .mk condition body :: branches

end

/-- The source file that a spelled file stands for. -/
def SpelledFile.decode (file : SpelledFile) : Except SyntaxError SourceFile := do
  let header ← file.header.mapM SpelledDirective.decode
  let statements ← decodeBlock file.statements
  return { header, statements }

end RecordScript
