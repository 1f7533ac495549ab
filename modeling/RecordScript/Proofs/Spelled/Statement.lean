import RecordScript.Proofs.Spelled.Expression

/-!
# The grammar of programs, as they are spelled

Statements and programs over the expressions as they are spelled. Reading a text in this form and
decoding it is what reading it through its parse tree comes to.
-/

namespace RecordScript

namespace Grammar

open RecordScript.Parser

/-- Reads the given keyword. -/
def keyword (construct : Construct) (name : String) : Parser Unit :=
  named construct (do let _ ← token (Token.keyword name); pure ())

/-- Reads a directive behind the given sign. -/
def directive (limit : Nat) (construct : Construct) (mark : String) (inline : Bool) :
    Parser SpelledDirective :=
  named construct do
    let position ← here
    let _ ← sign mark
    let name ← bareName
    let args ← optional (arguments limit (expression limit))
    pure { name := String.ofList name, args := args.getD [], inline, position }

/-- Reads a directive that belongs before the first statement. -/
def headerDirective (limit : Nat) : Parser SpelledDirective :=
  directive limit .headerDirective "@" false

/-- Reads a directive that may stand among the statements. -/
def inlineDirective (limit : Nat) : Parser SpelledDirective :=
  directive limit .inlineDirective "@@" true

/-- Reads an assignment. -/
def assignment (limit : Nat) : Parser SpelledStatement :=
  named .assignment do
    let pos ← here
    let field ← fieldName
    let _ ← named .assignSign (token Token.assignSign)
    let value ← expression limit
    pure (.assign pos field value)

/-- Reads a branch with a condition between two keywords. -/
def branch (limit : Nat) (construct opening : Construct) (name : String)
    (block : Parser (List SpelledStatement)) : Parser SpelledBranch :=
  named construct do
    keyword opening name
    let condition ← expression limit
    keyword .kwThen "then"
    let body ← block
    pure (.mk (SpelledExpr.asCondition condition) body)

/-- Reads a rule. -/
def rule (limit : Nat) (block : Parser (List SpelledStatement)) : Parser SpelledStatement :=
  named .rule do
    let first ← branch limit .ifBranch .kwIf "if" block
    let others ← many limit (branch limit .elifBranch .kwElif "elif" block)
    let otherwise ← optional (named .elseBranch do keyword .kwElse "else"; block)
    keyword .kwFi "fi"
    pure (.rule (first :: others) otherwise)

/-- Reads a statement over the blocks inside it, and the semicolon behind it. -/
def statementOver (limit : Nat) (block : Parser (List SpelledStatement)) :
    Parser SpelledStatement := do
  let statement ← rule limit block
    <|> (.directive <$> inlineDirective limit)
    <|> (.directive <$> headerDirective limit)
    <|> assignment limit
    <|> ((fun (pos, function, args) => .call pos function args) <$>
      call limit (expression limit))
  let _ ← optional (sign ";")
  pure statement

/-- Reads a statement whose rules are nested at most `depth` times. -/
def statement : Nat → Parser SpelledStatement
  | 0 => fail
  | depth + 1 => statementOver depth (named .block (many depth (statement depth)))

/-- Reads the directives before the first statement. -/
def header (limit : Nat) : Parser (List SpelledDirective) :=
  named .header (many limit (do
    let d ← headerDirective limit
    let _ ← optional (sign ";")
    pure d))

/-- Reads a whole program. -/
def program (limit : Nat) : Parser SpelledFile :=
  named .program do
    layout
    let header ← header limit
    let statements ← named .statements (many limit (statement limit))
    named .endOfInput atEnd
    pure { header, statements }

/-- The tree of a text as it is spelled, or the place where reading failed and what was expected
there. -/
def readSpelled (source : String) (text : List Char) : Except SyntaxError SpelledFile :=
  (program (text.length + 1) (Cursor.start source text)).result source

end Grammar

end RecordScript
