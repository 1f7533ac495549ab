import RecordScript.Syntax.Operator
import RecordScript.Text.Position
import RecordScript.Value.Basic

/-!
# Expressions

The trees of expressions. They are generic in the form of literals and of names: reading a program
first yields trees that hold them as they are spelled, and decoding replaces the spellings by what
they stand for. Every node knows where it starts.
-/

namespace RecordScript

variable [RegexEngine]

/-- An expression over literals of type `Lit` and field names of type `Name`. -/
inductive ExprOf (Lit Name : Type) where
  | literal (pos : Position) (value : Lit)
  | field (pos : Position) (name : Name)
  | call (pos : Position) (function : String) (args : List (ExprOf Lit Name))
  | unary (pos : Position) (op : UnaryOp) (operand : ExprOf Lit Name)
  | binary (pos : Position) (op : BinaryOp) (left right : ExprOf Lit Name)
  | logical (pos : Position) (op : LogicalOp) (left right : ExprOf Lit Name)
  | comparison (pos : Position) (op : CompareOp) (left right : ExprOf Lit Name)
  /-- Whether a pattern occurs in a subject. -/
  | pattern (pos : Position) (subject pattern : ExprOf Lit Name)
  /-- A pattern that stands for a truth value and leaves its subject open. -/
  | barePattern (pos : Position) (pattern : ExprOf Lit Name)

/-- An expression whose literals are values and whose names are texts. -/
abbrev Expr := ExprOf Value String

namespace ExprOf

variable {Lit Name : Type}

/-- Where the expression starts, as far as its node is concerned. -/
def position : ExprOf Lit Name → Position
  | literal p _ | field p _ | call p _ _ | unary p _ _ | binary p _ _ _ | logical p _ _ _
  | comparison p _ _ _ | pattern p _ _ | barePattern p _ => p

end ExprOf

/-- Whether a value is a pattern: alone it can stand for a truth value. -/
def Value.isPattern : Value → Bool
  | .string _ | .regex _ => true
  | .none | .number _ | .boolean _ => false

/-- The expression as an operand of a logical operator or as a condition: a literal that is a
pattern leaves its subject open. -/
def Expr.asCondition : Expr → Expr
  | .literal pos value =>
    if value.isPattern then .barePattern pos (.literal pos value) else .literal pos value
  | e => e

end RecordScript
