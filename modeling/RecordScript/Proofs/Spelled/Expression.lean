import RecordScript.Grammar.Tree
import RecordScript.Proofs.Spelled.Decode

/-!
# The grammar of expressions, as they are spelled

The levels of the grammar once more, but each of them gives an expression at once instead of nodes
for a builder: operators are folded while they are read, and literals and names stay as they are
spelled. What the language is and where things stand in a text is proved of this form; it reads the
same texts as the trees do.
-/

namespace RecordScript

namespace SpelledExpr

/-- The expression as an operand of a logical operator or as a condition: a literal that is a
pattern leaves its subject open. -/
def asCondition : SpelledExpr → SpelledExpr
  | .literal pos spelling =>
    if spelling.isPattern then .barePattern pos (.literal pos spelling) else .literal pos spelling
  | e => e

end SpelledExpr

namespace Grammar

open RecordScript.Parser

/-- Reads the given sign. -/
def sign (s : String) : Parser (List Char) := token (Token.sign s)

/-- The operator that a sign of a comparison stands for; the tilde is none of them. -/
def compareOp? (taken : List Char) : Option CompareOp :=
  match String.ofList taken with
  | "==" => some .eq
  | "!=" => some .ne
  | "<=" => some .le
  | ">=" => some .ge
  | "<" => some .lt
  | ">" => some .gt
  | _ => none

/-- The operator that a sign between sums or products stands for. -/
def binaryOp (taken : List Char) : BinaryOp :=
  match taken with
  | ['+'] => .add
  | ['-'] => .sub
  | ['*'] => .mul
  | ['/'] => .div
  | ['%'] => .rem
  | _ => .concat

/-- Reads a name without braces. -/
def bareName : Parser (List Char) := named .bareName (token Token.name)

/-- Reads a name in braces. -/
def bracedName : Parser (List Char) := named .bracedName (token Token.bracedName)

/-- Reads the name of a field. -/
def fieldName : Parser NameSpelling :=
  (.bare <$> bareName) <|> ((fun taken => .braced (Token.inner taken)) <$> bracedName)

/-- Reads a literal whose token is turned into a spelling. -/
def literal (construct : Construct) (scan : Scanner) (spelling : List Char → LiteralSpelling) :
    Parser SpelledExpr := do
  let pos ← here
  let taken ← named construct (token scan)
  pure (.literal pos (spelling taken))

/-- Reads one of the literals. -/
def anyLiteral : Parser SpelledExpr :=
  literal .boolean Token.boolean (fun taken => .boolean (taken = "true".toList))
    <|> literal .number Token.number .number
    <|> literal .string Token.quoted (fun taken => .quoted (Token.inner taken))
    <|> literal .regex Token.regex (fun taken => .regex (Token.inner taken))

/-- Reads things separated by commas, at least one. -/
def separated {α : Type} (limit : Nat) (p : Parser α) : Parser (List α) := do
  let first ← p
  let others ← many limit (do let _ ← sign ","; p)
  pure (first :: others)

/-- Reads the arguments of a call in parentheses. -/
def arguments (limit : Nat) (expr : Parser SpelledExpr) : Parser (List SpelledExpr) :=
  named .arguments do
    let _ ← sign "("
    let args ← optional (separated limit expr)
    let _ ← sign ")"
    pure (args.getD [])

/-- Reads the call of a function: its position, its name and its arguments. -/
def call (limit : Nat) (expr : Parser SpelledExpr) :
    Parser (Position × String × List SpelledExpr) :=
  named .call do
    let pos ← here
    let function ← bareName
    let args ← arguments limit expr
    pure (pos, String.ofList function, args)

/-- Reads a field name where its value is meant. -/
def fieldRead : Parser SpelledExpr := do
  let pos ← here
  let spelling ← named .fieldRead fieldName
  pure (.field pos spelling)

/-- Reads an expression in parentheses, which leave no node. -/
def parenthesized (expr : Parser SpelledExpr) : Parser SpelledExpr := do
  let _ ← sign "("
  let e ← expr
  let _ ← sign ")"
  pure e

/-- Reads a literal, a call, a field or an expression in parentheses. -/
def primary (limit : Nat) (expr : Parser SpelledExpr) : Parser SpelledExpr :=
  anyLiteral
    <|> ((fun (pos, function, args) => .call pos function args) <$> call limit expr)
    <|> fieldRead
    <|> parenthesized expr

/-- Reads one of the given signs as an operator with its position. -/
def operator {α : Type} (construct : Construct) (signs : List String) (op : List Char → α) :
    Parser (Position × α) := do
  let pos ← here
  let taken ← named construct (token (Token.anySign signs))
  pure (pos, op taken)

/-- Puts operators that were read before an operand around it, the last of them innermost. -/
def applyUnary (ops : List (Position × UnaryOp)) (operand : SpelledExpr) : SpelledExpr :=
  ops.foldr (fun (pos, op) e => .unary pos op e) operand

/-- Reads a primary expression with the signs before it. -/
def unary (limit : Nat) (expr : Parser SpelledExpr) : Parser SpelledExpr :=
  named .unary do
    let ops ← many limit (operator .unarySign ["+", "-"]
      fun taken => if taken = ['-'] then .minus else .plus)
    let operand ← primary limit expr
    pure (applyUnary ops operand)

/-- Reads operands between operators of one level, which are grouped from the left. -/
def binaryLevel (limit : Nat) (construct opConstruct : Construct) (signs : List String)
    (operand : Parser SpelledExpr) : Parser SpelledExpr :=
  named construct do
    let first ← operand
    let others ← many limit (do
      let (pos, op) ← operator opConstruct signs binaryOp
      let right ← operand
      pure (pos, op, right))
    pure (others.foldl (fun left (pos, op, right) => .binary pos op left right) first)

/-- Reads products of signed expressions. -/
def product (limit : Nat) (expr : Parser SpelledExpr) : Parser SpelledExpr :=
  binaryLevel limit .product .mulSign ["*", "/", "%"] (unary limit expr)

/-- Reads sums of products. -/
def sum (limit : Nat) (expr : Parser SpelledExpr) : Parser SpelledExpr :=
  binaryLevel limit .sum .addSign ["+", "-", "."] (product limit expr)

/-- Reads a sum, or two sums with a comparison between them. -/
def comparison (limit : Nat) (expr : Parser SpelledExpr) : Parser SpelledExpr :=
  named .comparison do
    let pos ← here
    let left ← sum limit expr
    let other ← optional (do
      let taken ← named .compareSign (token (Token.anySign Token.compareSigns))
      let right ← sum limit expr
      pure (compareOp? taken, right))
    match other with
    | none => pure left
    | some (some op, right) => pure (.comparison pos op left right)
    | some (none, right) => pure (.pattern pos left right)

/-- Puts the negations that were read before an operand around it. -/
def applyNot (positions : List Position) (operand : SpelledExpr) : SpelledExpr :=
  positions.foldr (fun pos e => .unary pos .not (SpelledExpr.asCondition e)) operand

/-- Reads a comparison with the negations before it. -/
def negation (limit : Nat) (expr : Parser SpelledExpr) : Parser SpelledExpr :=
  named .negation do
    let nots ← many limit (operator .notSign ["!"] fun _ => ())
    let operand ← comparison limit expr
    pure (applyNot (nots.map Prod.fst) operand)

/-- Joins operands of a logical operator from the left; a single operand stays as it is. -/
def joinLogical (op : LogicalOp) (pos : Position) (first : SpelledExpr) :
    List SpelledExpr → SpelledExpr
  | [] => first
  | others =>
    others.foldl (fun left right => .logical pos op left (SpelledExpr.asCondition right))
      (SpelledExpr.asCondition first)

/-- Reads negations between the signs of conjunction. -/
def conjunction (limit : Nat) (expr : Parser SpelledExpr) : Parser SpelledExpr :=
  named .conjunction do
    let pos ← here
    let first ← negation limit expr
    let others ← many limit (do let _ ← sign "&"; negation limit expr)
    pure (joinLogical .and pos first others)

/-- Reads conjunctions between bars; a bar may also stand before the first. -/
def alternatives (limit : Nat) (expr : Parser SpelledExpr) : Parser SpelledExpr :=
  named .expression do
    let pos ← here
    let _ ← optional (sign "|")
    let first ← conjunction limit expr
    let others ← many limit (do let _ ← sign "|"; conjunction limit expr)
    pure (joinLogical .or pos first others)

/-- Reads an expression that is nested at most `depth` times. -/
def expression : Nat → Parser SpelledExpr
  | 0 => fail
  | depth + 1 => alternatives depth (expression depth)

end Grammar

end RecordScript
