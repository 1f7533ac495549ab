/-!
# Constructs of the grammar

The parts of the language that can be missing at a place of a program text. Where reading fails, the
constructs that could have stood there are listed in the order in which they are declared here.
-/

namespace RecordScript

/-- A part of the grammar that can be expected at a place. -/
inductive Construct where
  | endOfInput
  | program
  | header
  | headerDirective
  | inlineDirective
  | statements
  | block
  | rule
  | ifBranch
  | elifBranch
  | elseBranch
  | assignment
  | assignSign
  | call
  | arguments
  | expression
  | conjunction
  | negation
  | notSign
  | comparison
  | compareSign
  | sum
  | addSign
  | product
  | mulSign
  | unary
  | unarySign
  | fieldRead
  | boolean
  | number
  | string
  | doubleQuotedChars
  | singleQuotedChars
  | regex
  | regexChars
  | bareName
  | bracedName
  | bracedChars
  | kwIf
  | kwThen
  | kwElif
  | kwElse
  | kwFi
deriving DecidableEq, Repr

namespace Construct

/-- The name of a construct in messages. -/
def description : Construct → String
  | endOfInput => "end of input"
  | program => "program"
  | header => "header"
  | headerDirective | inlineDirective => "directive"
  | statements => "statements"
  | block => "block"
  | rule | ifBranch => "rule"
  | elifBranch => "elif_branch"
  | elseBranch => "else_branch"
  | assignment => "assignment"
  | assignSign => "`=`"
  | call => "call"
  | arguments => "argument list"
  | expression | conjunction | negation | comparison => "expression"
  | notSign => "not_op"
  | compareSign => "comparison operator"
  | sum => "sum"
  | addSign | mulSign => "operator"
  | product => "product"
  | unary => "unary"
  | unarySign => "unary_op"
  | fieldRead | bareName | bracedName => "field name"
  | boolean => "boolean"
  | number => "number"
  | string => "string"
  | doubleQuotedChars => "dq_chars"
  | singleQuotedChars => "sq_chars"
  | regex => "regex"
  | regexChars => "regex_chars"
  | bracedChars => "brace_chars"
  | kwIf => "`if`"
  | kwThen => "`then`"
  | kwElif => "`elif`"
  | kwElse => "`else`"
  | kwFi => "`fi`"

/-- All constructs, in the order in which messages list them. -/
def all : List Construct := [
  endOfInput, program, header, headerDirective, inlineDirective, statements, block, rule, ifBranch,
  elifBranch, elseBranch, assignment, assignSign, call, arguments, expression, conjunction, negation,
  notSign, comparison, compareSign, sum, addSign, product, mulSign, unary, unarySign, fieldRead,
  boolean, number, string, doubleQuotedChars, singleQuotedChars, regex, regexChars, bareName,
  bracedName, bracedChars, kwIf, kwThen, kwElif, kwElse, kwFi]

/-- A list of alternatives in words. -/
def enumerate : List String → String
  | [] => ""
  | [a] => a
  | [a, b] => a ++ " or " ++ b
  | names => ", ".intercalate names.dropLast ++ ", or " ++ names.getLast?.getD ""

/-- The wording of what was expected: each construct once, in the order of `all`. -/
def expectation (constructs : List Construct) : String :=
  "expected " ++ enumerate ((all.filter constructs.contains).map description)

end Construct

end RecordScript
