/-!
# Operators

The operators of expressions and the signs they are written with.
-/

namespace RecordScript

/-- An operator before its operand. -/
inductive UnaryOp where
  | plus
  | minus
  | not
deriving DecidableEq, Repr

/-- An operator of arithmetic, or the joining of texts. -/
inductive BinaryOp where
  | add
  | sub
  | mul
  | div
  | rem
  | concat
deriving DecidableEq, Repr

/-- An operator between truth values. -/
inductive LogicalOp where
  | and
  | or
deriving DecidableEq, Repr

/-- A comparison. -/
inductive CompareOp where
  | eq
  | ne
  | lt
  | le
  | gt
  | ge
deriving DecidableEq, Repr

namespace UnaryOp

/-- The sign of the operator. -/
def sign : UnaryOp → String
  | plus => "+"
  | minus => "-"
  | not => "!"

end UnaryOp

namespace BinaryOp

/-- The sign of the operator. -/
def sign : BinaryOp → String
  | add => "+"
  | sub => "-"
  | mul => "*"
  | div => "/"
  | rem => "%"
  | concat => "."

end BinaryOp

namespace LogicalOp

/-- The sign of the operator. -/
def sign : LogicalOp → String
  | and => "&"
  | or => "|"

end LogicalOp

namespace CompareOp

/-- The sign of the operator. -/
def sign : CompareOp → String
  | eq => "=="
  | ne => "!="
  | lt => "<"
  | le => "<="
  | gt => ">"
  | ge => ">="

/-- Whether the comparison holds of two things in the given order. -/
def holds : CompareOp → Ordering → Bool
  | eq, o => o == .eq
  | ne, o => o != .eq
  | lt, o => o == .lt
  | le, o => o != .gt
  | gt, o => o == .gt
  | ge, o => o != .lt

end CompareOp

end RecordScript
