import RecordScript.Grammar.Statement
import RecordScript.Syntax.Spelling

/-!
# Building programs

The source file that a parse tree stands for. A tree of another shape than the grammar promises is
no program and no error of the text either: there the program that reads it stops. A text that the
grammar accepts can still be wrong, since literals and names in braces are only decoded here.
-/

namespace RecordScript

variable [RegexEngine]

/-- What stops a program where a parse tree is not as the grammar promises. -/
inductive Panic where
  | missing (what : String)
  | mismatch (found expected : Construct)
  | unreachable
  | tooDeep
deriving DecidableEq, Repr

/-- Why no source file is built. -/
inductive BuildFailure where
  | panic (cause : Panic)
  | invalid (error : SyntaxError)
deriving DecidableEq, Repr

/-- What is built, or why it is not. -/
abbrev Build := Except BuildFailure

namespace Build

variable {α : Type}

/-- Stops. -/
def panic (cause : Panic) : Build α := .error (.panic cause)

/-- What a result amounts to that can only fail because of the text. -/
def ofResult (x : Except SyntaxError α) : Build α := x.mapError .invalid

/-- A result with its problem at the place of the tree. -/
def located (t : ParseTree) (x : Except SyntaxProblem α) : Build α :=
  ofResult (problemAt t.position x)

end Build

namespace ParseTree

/-- Makes sure what the tree is. -/
def expect (construct : Construct) (t : ParseTree) : Build Unit :=
  if t.construct = construct then pure ()
  else .panic (.mismatch t.construct construct)

/-- The first of the trees, and the others behind it. -/
def next (what : String) : List ParseTree → Build (ParseTree × List ParseTree)
  | t :: ts => pure (t, ts)
  | [] => .panic (.missing what)

/-- The first of the trees, of which is known what it is, and the others behind it. -/
def nextOf (construct : Construct) (ts : List ParseTree) : Build (ParseTree × List ParseTree) := do
  let (t, ts) ← next "pair" ts
  t.expect construct
  pure (t, ts)

end ParseTree

namespace Builder

open RecordScript.ParseTree (next nextOf)

/-- The field name that a tree stands for. -/
def identifier (t : ParseTree) : Build String :=
  match t.construct with
  | .bareName => pure (String.ofList t.text)
  | .bracedName => do
    let (chars, _) ← nextOf .bracedChars t.parts
    .located t (NameSpelling.braced chars.text).decode
  | _ => .panic .unreachable

/-! ### Expressions -/

section Expressions

variable (expr : ParseTree → Build Expr)

/-- The arguments that a tree stands for. -/
def arguments (t : ParseTree) : Build (List Expr) := do
  t.expect .arguments
  t.parts.mapM expr

/-- The position, the function and the arguments of a call. -/
def call (t : ParseTree) : Build (Position × String × List Expr) := do
  let (name, parts) ← nextOf .bareName t.parts
  let (args, _) ← nextOf .arguments parts
  return (t.position, String.ofList name.text, ← arguments expr args)

/-- The literal, call, field or expression in parentheses that a tree stands for. -/
def primary (t : ParseTree) : Build Expr :=
  match t.construct with
  | .expression => expr t
  | .call => do
    let (pos, function, args) ← call expr t
    return .call pos function args
  | .fieldRead => do
    let (name, _) ← next "identifier" t.parts
    return .field t.position (← identifier name)
  | .boolean => pure (.literal t.position (.boolean (t.text = "true".toList)))
  | .number => do return .literal t.position (← .located t (LiteralSpelling.number t.text).decode)
  | .string => do
    let (chars, _) ← next "string body" t.parts
    return .literal t.position (← .located t (LiteralSpelling.quoted chars.text).decode)
  | .regex => do
    let (chars, _) ← nextOf .regexChars t.parts
    return .literal t.position (← .located t (LiteralSpelling.regex chars.text).decode)
  | _ => .panic .unreachable

/-- The signs among trees, the last of them first, and what the last of the other trees stands for.
-/
def unaryParts (ops : List (Position × UnaryOp)) (operand : Option Expr) :
    List ParseTree → Build (List (Position × UnaryOp) × Option Expr)
  | [] => pure (ops, operand)
  | t :: ts =>
    if t.construct = .unarySign then
      unaryParts ((t.position, if t.text = ['-'] then .minus else .plus) :: ops) operand ts
    else do
      let operand ← primary expr t
      unaryParts ops (some operand) ts

/-- The expression with the signs before it. -/
def unary (t : ParseTree) : Build Expr := do
  match ← unaryParts expr [] none t.parts with
  | (_, none) => .panic (.missing "primary")
  | (ops, some operand) => return ops.foldl (fun e (pos, op) => .unary pos op e) operand

/-- The operator that a sign between operands stands for. -/
def binaryOp? (text : List Char) : Option BinaryOp :=
  match text with
  | ['+'] => some .add
  | ['-'] => some .sub
  | ['.'] => some .concat
  | ['*'] => some .mul
  | ['/'] => some .div
  | ['%'] => some .rem
  | _ => none

/-- Applies the operators among trees to what is in front of them, from the left. -/
def binaryRest (operand : ParseTree → Build Expr) (acc : Expr) : List ParseTree → Build Expr
  | [] => pure acc
  | sign :: ts =>
    match binaryOp? sign.text, ts with
    | none, _ => .panic .unreachable
    | some _, [] => .panic (.missing "operand")
    | some op, t :: ts => do
      let right ← operand t
      binaryRest operand (.binary sign.position op acc right) ts

/-- The operands between operators of one level. -/
def binaryChain (operand : ParseTree → Build Expr) (t : ParseTree) : Build Expr := do
  let (first, parts) ← next "operand" t.parts
  binaryRest operand (← operand first) parts

/-- The product that a tree stands for. -/
def product : ParseTree → Build Expr := binaryChain (unary expr)

/-- The sum that a tree stands for. -/
def sum : ParseTree → Build Expr := binaryChain (product expr)

/-- The comparison of two operands, or the match of a subject with a pattern. -/
def compared (pos : Position) (left right : Expr) (text : List Char) : Build Expr :=
  match String.ofList text with
  | "~" => pure (.pattern pos left right)
  | "==" => pure (.comparison pos .eq left right)
  | "!=" => pure (.comparison pos .ne left right)
  | "<" => pure (.comparison pos .lt left right)
  | "<=" => pure (.comparison pos .le left right)
  | ">" => pure (.comparison pos .gt left right)
  | ">=" => pure (.comparison pos .ge left right)
  | _ => .panic .unreachable

/-- A sum, or two sums with a comparison between them. -/
def comparison (t : ParseTree) : Build Expr := do
  let (left, parts) ← nextOf .sum t.parts
  let left ← sum expr left
  match parts with
  | [] => pure left
  | sign :: parts => do
    let (right, _) ← nextOf .sum parts
    let right ← sum expr right
    compared t.position left right sign.text

/-- The places of the negations among trees, the last of them first, and what the last comparison
among the trees stands for. -/
def negationParts (nots : List Position) (operand : Option Expr) :
    List ParseTree → Build (List Position × Option Expr)
  | [] => pure (nots, operand)
  | t :: ts =>
    match t.construct with
    | .notSign => negationParts (t.position :: nots) operand ts
    | .comparison => do
      let operand ← comparison expr t
      negationParts nots (some operand) ts
    | _ => .panic .unreachable

/-- The comparison with the negations before it. -/
def negation (t : ParseTree) : Build Expr := do
  match ← negationParts expr [] none t.parts with
  | (_, none) => .panic (.missing "comparison")
  | (nots, some operand) =>
    return nots.foldl (fun e pos => .unary pos .not (Expr.asCondition e)) operand

/-- Joins what is in front with the operands behind it, from the left. -/
def logicalRest (op : LogicalOp) (pos : Position) (operand : ParseTree → Build Expr) (acc : Expr) :
    List ParseTree → Build Expr
  | [] => pure acc
  | t :: ts => do
    let right ← operand t
    logicalRest op pos operand (.logical pos op acc right.asCondition) ts

/-- The operands of a logical operator; a single operand stays as it is. -/
def logical (op : LogicalOp) (operand : ParseTree → Build Expr) (t : ParseTree) : Build Expr := do
  let (first, parts) ← next "operand" t.parts
  let acc ← operand first
  match parts with
  | [] => pure acc
  | parts => logicalRest op t.position operand acc.asCondition parts

/-- The conjunction that a tree stands for. -/
def conjunction : ParseTree → Build Expr := logical .and (negation expr)

/-- The alternatives that a tree stands for. -/
def alternatives (t : ParseTree) : Build Expr := do
  t.expect .expression
  logical .or (conjunction expr) t

end Expressions

/-- The expression that a tree stands for, if it is nested at most `depth` times. -/
def expression : Nat → ParseTree → Build Expr
  | 0, _ => .panic .tooDeep
  | depth + 1, t => alternatives (expression depth) t

/-! ### Statements -/

section Statements

variable (limit : Nat)

/-- The directive that a tree stands for. -/
def directive (t : ParseTree) : Build Directive := do
  let (name, parts) ← nextOf .bareName t.parts
  let args ← match parts with
    | args :: _ => arguments (expression limit) args
    | [] => pure []
  return { name := String.ofList name.text, args, inline := t.construct = .inlineDirective,
           position := t.position }

/-- The assignment that a tree stands for. -/
def assignment (t : ParseTree) : Build Statement := do
  let (field, parts) ← next "field" t.parts
  let field ← identifier field
  let (_, parts) ← nextOf .assignSign parts
  let (value, _) ← nextOf .expression parts
  return .assign t.position field (← expression limit value)

variable (statement : ParseTree → Build Statement)

/-- The statements below a tree. -/
def statements (t : ParseTree) : Build (List Statement) := t.parts.mapM statement

/-- The branch that a tree stands for. -/
def branch (t : ParseTree) : Build Branch := do
  let (condition, parts) ← next "condition" t.parts.tail
  let condition ← expression limit condition
  let (_, parts) ← nextOf .kwThen parts
  let (block, _) ← nextOf .block parts
  return .mk condition.asCondition (← statements statement block)

/-- The statements of the branch without a condition. -/
def elseBranch (t : ParseTree) : Build (List Statement) := do
  let (_, parts) ← nextOf .kwElse t.parts
  let (block, _) ← nextOf .block parts
  statements statement block

/-- The branches among trees, behind those that are known already, and the statements that stand
for all other cases. -/
def ruleParts (branches : List Branch) (otherwise : Option (List Statement)) :
    List ParseTree → Build Statement
  | [] => pure (.rule branches otherwise)
  | t :: ts =>
    match t.construct with
    | .ifBranch | .elifBranch => do
      let b ← branch limit statement t
      ruleParts (branches ++ [b]) otherwise ts
    | .elseBranch => do
      let body ← elseBranch statement t
      ruleParts branches (some body) ts
    | .kwFi => ruleParts branches otherwise ts
    | _ => .panic .unreachable

/-- The statement that a tree stands for, over the statements inside it. -/
def statementOver (t : ParseTree) : Build Statement :=
  match t.construct with
  | .rule => ruleParts limit statement [] none t.parts
  | .assignment => assignment limit t
  | .call => do
    let (pos, function, args) ← call (expression limit) t
    return .call pos function args
  | .inlineDirective | .headerDirective => .directive <$> directive limit t
  | _ => .panic .unreachable

end Statements

/-- The statement that a tree stands for, if rules are nested at most `depth` times in it. -/
def statement : Nat → ParseTree → Build Statement
  | 0, _ => .panic .tooDeep
  | depth + 1, t => statementOver depth (statement depth) t

/-- The source file that a tree stands for. -/
def sourceFile (limit : Nat) (t : ParseTree) : Build SourceFile := do
  let (header, parts) ← nextOf .header t.parts
  let header ← header.parts.mapM (directive limit)
  let (body, _) ← nextOf .statements parts
  return { header, statements := ← statements (statement limit) body }

end Builder

/-- The name of the source of a text that has none of its own. -/
def anonymousSource : String := "<program>"

namespace SourceFile

/-- The source file of a program text, built from the tree of the text. -/
def parse (source text : String) : Build SourceFile := do
  let trees ← .ofResult (TreeGrammar.read source text.toList)
  let (program, _) ← ParseTree.next "program" trees
  Builder.sourceFile (text.length + 1) program

/-- The source file of a program text, or what is wrong with the text. No text stops the program, so
the error that stands for that is never given. -/
def read (source text : String) : Except SyntaxError SourceFile :=
  match parse source text with
  | .ok file => .ok file
  | .error (.invalid e) => .error e
  | .error (.panic _) => .error ⟨⟨source, 1, 1⟩, .expected []⟩

end SourceFile

end RecordScript
