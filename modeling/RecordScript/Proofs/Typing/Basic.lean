import RecordScript.Builtin.Basic
import RecordScript.Evaluation.Operation
import RecordScript.Proofs.Syntax.Tree

/-!
# Static types

The type that an expression has before any record is looked at. A value has its type, and a field
that is read keeps its type open until an operator or a function asks for one.
-/

namespace RecordScript

variable [RegexEngine]

/-- What is known of an operand without a record: the type of a value, or `none` for a field. -/
abbrev StaticType := Option ValueType

namespace StaticType

/-- Whether an operand of the type can be used where values of type `v` are needed. -/
def admits (t : StaticType) (v : ValueType) : Bool := t = none || t = some v

end StaticType

namespace UnaryOp

/-- Whether the operator takes operands of the type. -/
def takes : UnaryOp → StaticType → Bool
  | plus, t | minus, t => t.admits .number
  | not, t => t = some .boolean

/-- The type of what the operator gives. -/
def resultType : UnaryOp → ValueType
  | plus | minus => .number
  | not => .boolean

end UnaryOp

namespace BinaryOp

/-- The type that both operands are taken as, which is also the type of the result. -/
def operandType : BinaryOp → ValueType
  | concat => .string
  | _ => .number

end BinaryOp

namespace CompareOp

/-- Whether values of the type can be compared by the operator. -/
def compares (op : CompareOp) : ValueType → Bool
  | .string | .number => true
  | .boolean => op.isEquality
  | .none | .regex => false

end CompareOp

/-- Whether a field can be compared with values of the type. -/
def ValueType.comparesWithField : ValueType → Bool
  | .string | .number => true
  | _ => false

namespace CompareOp

/-- Whether the operator takes operands of the two types. -/
def takes (op : CompareOp) : StaticType → StaticType → Bool
  | none, none => true
  | some v, none | none, some v => v.comparesWithField
  | some v, some w => v = w && op.compares v

end CompareOp

namespace StaticType

/-- Whether an operand of the type can stand to the right of the match sign. -/
def isPattern (t : StaticType) : Bool := t.admits .string || t = some .regex

end StaticType

namespace Builtin

/-- Whether the function takes operands of the type for a parameter without a type of its own. -/
def takesUntyped : Builtin → StaticType → Bool
  | asNumber, t => t.admits .string || t.admits .number
  | log, t => t ≠ some .none
  | _, _ => true

/-- Whether the function takes operands of the type as its argument at the given index. -/
def takes (f : Builtin) (index : Nat) (t : StaticType) : Bool :=
  match f.param index with
  | .string => t.admits .string
  | .number => t.admits .number
  | .any => f.takesUntyped t

/-- The type of what the function gives. -/
def resultType : Builtin → ValueType
  | asNumber => .number
  | log => .none
  | _ => .string

end Builtin

mutual

/-- The type of an expression, if its operators and functions take operands of the types that they
are applied to. -/
def Expr.typeOf : Expr → Option StaticType
  | .literal _ value => some (some value.type)
  | .field _ _ => some none
  | .call _ function args =>
    match Builtin.ofName? function with
    | some f =>
      if f.arity.accepts args.length && argsFit f 0 args then some (some f.resultType) else none
    | none => none
  | .unary _ op operand =>
    match Expr.typeOf operand with
    | some t => if op.takes t then some (some op.resultType) else none
    | none => none
  | .binary _ op left right =>
    match Expr.typeOf left, Expr.typeOf right with
    | some s, some t =>
      if s.admits op.operandType && t.admits op.operandType then some (some op.operandType)
      else none
    | _, _ => none
  | .logical _ _ left right =>
    if Expr.typeOf left = some (some .boolean) && Expr.typeOf right = some (some .boolean) then
      some (some .boolean)
    else none
  | .comparison _ op left right =>
    match Expr.typeOf left, Expr.typeOf right with
    | some s, some t => if op.takes s t then some (some .boolean) else none
    | _, _ => none
  | .pattern _ subject pattern =>
    match Expr.typeOf subject, Expr.typeOf pattern with
    | some s, some t =>
      if s.admits .string && t.isPattern then some (some .boolean) else none
    | _, _ => none
  | .barePattern _ _ => none

/-- Whether the function takes the arguments, from the one at the given index on. -/
def argsFit (f : Builtin) (index : Nat) : List Expr → Bool
  | [] => true
  | arg :: args => (Expr.typeOf arg).any (f.takes index) && argsFit f (index + 1) args

end

namespace Expr

variable {pos : Position} {t : StaticType}

theorem typeOf_call_eq_some {function : String} {args : List Expr} :
    typeOf (.call pos function args) = some t ↔
      ∃ f, Builtin.ofName? function = some f ∧ f.arity.accepts args.length = true ∧
        argsFit f 0 args = true ∧ some f.resultType = t := by
  rw [typeOf]
  cases Builtin.ofName? function <;> simp [and_assoc]

theorem typeOf_unary_eq_some {op : UnaryOp} {operand : Expr} :
    typeOf (.unary pos op operand) = some t ↔
      ∃ s, typeOf operand = some s ∧ op.takes s = true ∧ some op.resultType = t := by
  rw [typeOf]
  cases typeOf operand <;> simp

theorem typeOf_binary_eq_some {op : BinaryOp} {left right : Expr} :
    typeOf (.binary pos op left right) = some t ↔
      ∃ r s, typeOf left = some r ∧ typeOf right = some s ∧ r.admits op.operandType = true ∧
        s.admits op.operandType = true ∧ some op.operandType = t := by
  rw [typeOf]
  cases typeOf left <;> cases typeOf right <;> simp [and_assoc]

theorem typeOf_logical_eq_some {op : LogicalOp} {left right : Expr} :
    typeOf (.logical pos op left right) = some t ↔
      typeOf left = some (some .boolean) ∧ typeOf right = some (some .boolean) ∧
        some .boolean = t := by
  rw [typeOf]
  simp [and_assoc]

theorem typeOf_comparison_eq_some {op : CompareOp} {left right : Expr} :
    typeOf (.comparison pos op left right) = some t ↔
      ∃ r s, typeOf left = some r ∧ typeOf right = some s ∧ op.takes r s = true ∧
        some .boolean = t := by
  rw [typeOf]
  cases typeOf left <;> cases typeOf right <;> simp

theorem typeOf_pattern_eq_some {subject pattern : Expr} :
    typeOf (.pattern pos subject pattern) = some t ↔
      ∃ r s, typeOf subject = some r ∧ typeOf pattern = some s ∧ r.admits .string = true ∧
        s.isPattern = true ∧ some .boolean = t := by
  rw [typeOf]
  cases typeOf subject <;> cases typeOf pattern <;> simp [and_assoc]

end Expr

/-- Whether an operator stands at the node that may leave out its right side. -/
def ExprOf.isLogical {Lit Name : Type} : ExprOf Lit Name → Bool
  | .logical _ _ _ _ => true
  | _ => false

/-- Whether every part of the expression is evaluated whenever the whole is. -/
def Expr.IsStrict (e : Expr) : Prop := ∀ x ∈ e.nodes, x.isLogical = false

end RecordScript
