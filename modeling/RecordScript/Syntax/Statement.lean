import RecordScript.Syntax.Expr

/-!
# Statements

The trees of programs: directives before the first statement, and the statements. A rule runs the
body of the first branch whose condition holds, and otherwise the body that stands for all other
cases.
-/

namespace RecordScript

variable [RegexEngine]

/-- A directive with its arguments. An `inline` directive may stand among the statements, the others
only before them. -/
structure DirectiveOf (Lit Name : Type) where
  name : String
  args : List (ExprOf Lit Name)
  inline : Bool
  position : Position

mutual

/-- A statement over literals of type `Lit` and field names of type `Name`. -/
inductive StatementOf (Lit Name : Type) where
  | assign (pos : Position) (field : Name) (value : ExprOf Lit Name)
  | call (pos : Position) (function : String) (args : List (ExprOf Lit Name))
  | rule (branches : List (BranchOf Lit Name)) (otherwise : Option (List (StatementOf Lit Name)))
  | directive (directive : DirectiveOf Lit Name)

/-- A condition with the statements that it guards. -/
inductive BranchOf (Lit Name : Type) where
  | mk (condition : ExprOf Lit Name) (body : List (StatementOf Lit Name))

end

/-- The text of a program as a tree. -/
structure SourceFileOf (Lit Name : Type) where
  header : List (DirectiveOf Lit Name)
  statements : List (StatementOf Lit Name)

/-- A directive whose literals are values. -/
abbrev Directive := DirectiveOf Value String

/-- A statement whose literals are values. -/
abbrev Statement := StatementOf Value String

/-- A branch whose literals are values. -/
abbrev Branch := BranchOf Value String

/-- A source file whose literals are values. -/
abbrev SourceFile := SourceFileOf Value String

end RecordScript
