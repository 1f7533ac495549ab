import RecordScript.Grammar.Expression

/-!
# The grammar of programs

Statements need no separators, but a semicolon may stand behind each. A program is a header of
directives followed by statements, and must end where the text ends.
-/

namespace RecordScript

namespace TreeGrammar

open RecordScript.Parser

/-- Reads the given keyword. -/
def keyword (construct : Construct) (name : String) : TreeParser :=
  leaf construct (Token.keyword name)

/-- Reads a directive behind the given sign. -/
def directive (limit : Nat) (construct : Construct) (sign : String) : TreeParser :=
  around construct [mark sign, bareName, maybe [arguments limit (expression limit)]]

/-- Reads a directive that belongs before the first statement. -/
def headerDirective (limit : Nat) : TreeParser := directive limit .headerDirective "@"

/-- Reads a directive that may stand among the statements. -/
def inlineDirective (limit : Nat) : TreeParser := directive limit .inlineDirective "@@"

/-- Reads an assignment. -/
def assignment (limit : Nat) : TreeParser :=
  around .assignment [fieldName, leaf .assignSign Token.assignSign, expression limit]

/-- Reads a branch with a condition between two keywords. -/
def branch (limit : Nat) (construct opening : Construct) (name : String) (block : TreeParser) :
    TreeParser :=
  around construct [keyword opening name, expression limit, keyword .kwThen "then", block]

/-- Reads a rule. -/
def rule (limit : Nat) (block : TreeParser) : TreeParser :=
  around .rule
    [branch limit .ifBranch .kwIf "if" block,
      repeated limit [branch limit .elifBranch .kwElif "elif" block],
      maybe [around .elseBranch [keyword .kwElse "else", block]],
      keyword .kwFi "fi"]

/-- Reads a statement over the blocks inside it, and the semicolon behind it. -/
def statementOver (limit : Nat) (block : TreeParser) : TreeParser :=
  sequence
    [rule limit block
      <|> inlineDirective limit
      <|> headerDirective limit
      <|> assignment limit
      <|> call limit (expression limit),
    maybe [mark ";"]]

/-- Reads a statement whose rules are nested at most `depth` times. -/
def statement : Nat → TreeParser
  | 0 => fail
  | depth + 1 => statementOver depth (around .block [repeated depth [statement depth]])

/-- Reads the directives before the first statement. -/
def header (limit : Nat) : TreeParser :=
  around .header [repeated limit [headerDirective limit, maybe [mark ";"]]]

/-- Passes over white space and comments. -/
def gap : TreeParser := do
  layout
  pure []

/-- Reads the end of the text, and nothing with it. -/
def nothing : TreeParser := do
  atEnd
  pure []

/-- Reads a whole program. -/
def program (limit : Nat) : TreeParser :=
  around .program
    [gap, header limit, around .statements [repeated limit [statement limit]],
      around .endOfInput [nothing]]

/-- The trees of a text, or the place where reading failed and what was expected there. -/
def read (source : String) (text : List Char) : Except SyntaxError (List ParseTree) :=
  (program (text.length + 1) (Cursor.start source text)).result source

end TreeGrammar

end RecordScript
