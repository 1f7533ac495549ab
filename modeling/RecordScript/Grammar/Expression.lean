import RecordScript.Grammar.Tree

/-!
# The grammar of expressions

From the loosest to the tightest: alternatives, conjunctions, negations, comparisons, sums,
products, signs, and the primary expressions. Each level is a parser over the levels below it;
parentheses and arguments lead back to the top, where the allowed depth decreases.
-/

namespace RecordScript

namespace TreeGrammar

open RecordScript.Parser

/-- Reads a name without braces. -/
def bareName : TreeParser := leaf .bareName Token.name

/-- Reads a name in braces. -/
def bracedName : TreeParser := enclosed .bracedName (fun _ => .bracedChars) Token.bracedName

/-- Reads the name of a field. -/
def fieldName : TreeParser := bareName <|> bracedName

/-- What stands between the quotes of a text. -/
def quotedChars (text : List Char) : Construct :=
  if text.head? = some '"' then .doubleQuotedChars else .singleQuotedChars

/-- Reads one of the literals. -/
def anyLiteral : TreeParser :=
  leaf .boolean Token.boolean
    <|> leaf .number Token.number
    <|> enclosed .string quotedChars Token.quoted
    <|> enclosed .regex (fun _ => .regexChars) Token.regex

/-- Reads the arguments of a call in parentheses. -/
def arguments (limit : Nat) (expr : TreeParser) : TreeParser :=
  around .arguments [mark "(", maybe [expr, repeated limit [mark ",", expr]], mark ")"]

/-- Reads the call of a function. -/
def call (limit : Nat) (expr : TreeParser) : TreeParser :=
  around .call [bareName, arguments limit expr]

/-- Reads a literal, a call, a field or an expression in parentheses. -/
def primary (limit : Nat) (expr : TreeParser) : TreeParser :=
  anyLiteral
    <|> call limit expr
    <|> around .fieldRead [fieldName]
    <|> sequence [mark "(", expr, mark ")"]

/-- Reads one of the given signs. -/
def operator (construct : Construct) (signs : List String) : TreeParser :=
  leaf construct (Token.anySign signs)

/-- Reads a primary expression with the signs before it. -/
def unary (limit : Nat) (expr : TreeParser) : TreeParser :=
  around .unary [repeated limit [operator .unarySign ["+", "-"]], primary limit expr]

/-- Reads operands between operators of one level. -/
def binaryLevel (limit : Nat) (construct opConstruct : Construct) (signs : List String)
    (operand : TreeParser) : TreeParser :=
  around construct [operand, repeated limit [operator opConstruct signs, operand]]

/-- Reads products of signed expressions. -/
def product (limit : Nat) (expr : TreeParser) : TreeParser :=
  binaryLevel limit .product .mulSign ["*", "/", "%"] (unary limit expr)

/-- Reads sums of products. -/
def sum (limit : Nat) (expr : TreeParser) : TreeParser :=
  binaryLevel limit .sum .addSign ["+", "-", "."] (product limit expr)

/-- Reads a sum, or two sums with a comparison between them. -/
def comparison (limit : Nat) (expr : TreeParser) : TreeParser :=
  around .comparison
    [sum limit expr, maybe [operator .compareSign Token.compareSigns, sum limit expr]]

/-- Reads a comparison with the negations before it. -/
def negation (limit : Nat) (expr : TreeParser) : TreeParser :=
  around .negation [repeated limit [operator .notSign ["!"]], comparison limit expr]

/-- Reads negations between the signs of conjunction. -/
def conjunction (limit : Nat) (expr : TreeParser) : TreeParser :=
  around .conjunction [negation limit expr, repeated limit [mark "&", negation limit expr]]

/-- Reads conjunctions between bars; a bar may also stand before the first. -/
def alternatives (limit : Nat) (expr : TreeParser) : TreeParser :=
  around .expression
    [maybe [mark "|"], conjunction limit expr, repeated limit [mark "|", conjunction limit expr]]

/-- Reads an expression that is nested at most `depth` times. -/
def expression : Nat → TreeParser
  | 0 => fail
  | depth + 1 => alternatives depth (expression depth)

end TreeGrammar

end RecordScript
