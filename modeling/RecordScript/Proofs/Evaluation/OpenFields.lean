import RecordScript.Pattern.PlaceEngine
import RecordScript.Proofs.Evaluation.Arithmetic
import RecordScript.Proofs.Evaluation.Casting
import RecordScript.Proofs.Evaluation.Faults
import RecordScript.Proofs.Evaluation.Logic
import RecordScript.Proofs.Typing.Operations

/-!
# Fields in place of values

Every operator and every parameter with a type resolves its operands to types, one after the other,
and looks at nothing else of them. So a field acts as the value that it resolves to, wherever it
stands; and where it does not resolve, what is around it fails as the field does. Only a comparison
lets the type depend on the other operand: a field takes the type of the value beside it, and two
fields are texts.
-/

namespace RecordScript

variable [RegexEngine]

/-! ### Operators on resolved operands -/

namespace Operand

theorem exists_toNumber_eq_map :
    ∃ number : Value → Decimal, ∀ o : Operand, o.toNumber = (o.resolve .number).map number := by
  refine ⟨fun v => (numberOf? v).getD ⟨0, 0⟩, fun o => ?_⟩
  cases o with
  | field name text =>
    rw [toNumber, resolve]
    cases Decimal.parse text <;> rfl
  | value v => cases v <;> rfl

theorem exists_toText_eq_map :
    ∃ text : Value → String, ∀ o : Operand, o.toText = (o.resolve .string).map text := by
  refine ⟨fun v => (textOf? v).getD "", fun o => ?_⟩
  cases o with
  | field name text => rfl
  | value v => cases v <;> rfl

theorem exists_toBoolean_eq_map :
    ∃ truth : Value → Bool, ∀ o : Operand, o.toBoolean = (o.resolve .boolean).map truth := by
  refine ⟨fun v => (booleanOf? v).getD false, fun o => ?_⟩
  cases o with
  | field name text => rfl
  | value v => cases v <;> rfl

/-- A value resolves to its own type, and a field to a text. -/
theorem exists_resolve_eq_ok (o : Operand) :
    ∃ v, o.resolve (o.strongType.getD .string) = .ok v := by
  cases o with
  | field name text => exact ⟨_, rfl⟩
  | value v => exact ⟨v, if_pos rfl⟩

end Operand

/-- The type that the operand is taken as. -/
def UnaryOp.operandType : UnaryOp → ValueType
  | plus | minus => .number
  | not => .boolean

theorem UnaryOp.exists_apply_eq (op : UnaryOp) :
    ∃ f : Value → Value, ∀ o, op.apply o = (o.resolve op.operandType).map f := by
  obtain ⟨number, hnumber⟩ := Operand.exists_toNumber_eq_map
  obtain ⟨truth, htruth⟩ := Operand.exists_toBoolean_eq_map
  cases op with
  | plus =>
    refine ⟨fun v => .number (number v), fun o => ?_⟩
    rw [apply, hnumber, operandType]
    cases o.resolve .number <;> rfl
  | minus =>
    refine ⟨fun v => .number (number v).neg, fun o => ?_⟩
    rw [apply, hnumber, operandType]
    cases o.resolve .number <;> rfl
  | not =>
    refine ⟨fun v => .boolean !truth v, fun o => ?_⟩
    rw [apply, htruth, operandType]
    cases o.resolve .boolean <;> rfl

theorem BinaryOp.exists_apply_eq (op : BinaryOp) :
    ∃ f : Value → Value → Except Fault Value, ∀ l r, op.apply l r =
      l.resolve op.operandType >>= fun v => r.resolve op.operandType >>= fun w => f v w := by
  cases h : op.arithmetic? with
  | none =>
    obtain rfl := arithmetic?_eq_none_iff.mp h
    obtain ⟨text, htext⟩ := Operand.exists_toText_eq_map
    refine ⟨fun v w => .ok (.string (text v ++ text w)), fun l r => ?_⟩
    rw [apply, h, operandType]
    simp only [htext]
    cases l.resolve .string <;> cases r.resolve .string <;> rfl
  | some compute =>
    obtain ⟨number, hnumber⟩ := Operand.exists_toNumber_eq_map
    have hop : op.operandType = .number := by
      cases op with
      | concat => cases h
      | _ => rfl
    refine ⟨fun v w => compute (number v) (number w) >>= fun c => .ok (.number c), fun l r => ?_⟩
    rw [apply, h, hop]
    simp only [hnumber]
    cases l.resolve .number <;> cases r.resolve .number <;> rfl

namespace CompareOp

variable {l r : Operand} {type : ValueType}

theorem commonType_of_left (op : CompareOp) (hl : l.strongType = none ∨ l.strongType = some type)
    (hr : r.strongType.getD .string = type) : op.commonType l r = .ok type := by
  rw [commonType]
  cases h : r.strongType <;> rcases hl with hl | hl <;> simp_all

theorem commonType_of_right (op : CompareOp) (hl : l.strongType.getD .string = type)
    (hr : r.strongType = none ∨ r.strongType = some type) : op.commonType l r = .ok type := by
  rw [commonType]
  cases h : l.strongType <;> rcases hr with hr | hr <;> simp_all

theorem exists_apply_eq (op : CompareOp) (type : ValueType) :
    ∃ f : Value → Value → Except Fault Bool, ∀ l r, op.commonType l r = .ok type →
      op.apply l r = l.resolve type >>= fun v => r.resolve type >>= fun w => f v w :=
  ⟨_, fun _ _ => apply_eq_of_commonType⟩

end CompareOp

namespace Config

theorem exists_isMatch_eq_subject (config : Config) (pattern : Operand) :
    ∃ f : Value → Except Fault Bool, ∀ subject,
      config.isMatch subject pattern = subject.resolve .string >>= f := by
  obtain ⟨text, htext⟩ := Operand.exists_toText_eq_map
  refine ⟨fun v => config.isMatch (.value (.string (text v))) pattern, fun subject => ?_⟩
  rw [isMatch, htext]
  cases subject.resolve .string <;> rfl

/-- What is no pattern is taken as a text that is looked for. -/
theorem exists_isMatch_eq_pattern (config : Config) :
    ∃ f : Value → Value → Bool, ∀ subject pattern : Operand, pattern.strongType ≠ some .regex →
      config.isMatch subject pattern =
        subject.resolve .string >>= fun v => (pattern.resolve .string).map (f v) := by
  obtain ⟨text, htext⟩ := Operand.exists_toText_eq_map
  refine ⟨fun v w => config.textMatches (text v) (text w), fun subject pattern h => ?_⟩
  rw [isMatch_eq_of_type h, htext, htext]
  cases subject.resolve .string <;> cases pattern.resolve .string <;> rfl

end Config

/-- The type that the parameter takes its arguments as, if it has one. -/
def ParamType.valueType? : ParamType → Option ValueType
  | string => some .string
  | number => some .number
  | any => none

theorem ParamType.accept_eq {param : ParamType} {type : ValueType}
    (h : param.valueType? = some type) (o : Operand) :
    param.accept o = (o.resolve type).map .value := by
  cases param <;> cases h <;> rfl

namespace Expr

variable {config : Config} {record : Record}

theorem condition_of_evaluate {e : Expr} {o : Operand} (h : e.evaluate config record = .succeed o) :
    e.condition config record = placed e.position o.toBoolean := by
  rw [condition, h, Outcome.succeed_bind]
  rfl

end Expr

/-! ### Nodes with one operand left open -/

/-- A node of an expression in which one operand is left open. -/
inductive Slot where
  | operand (pos : Position) (op : UnaryOp)
  | leftOperand (pos : Position) (op : BinaryOp) (right : Expr)
  | rightOperand (pos : Position) (op : BinaryOp) (left : Expr)
  | leftSide (pos : Position) (op : CompareOp) (right : Expr)
  | rightSide (pos : Position) (op : CompareOp) (left : Expr)
  | subject (pos : Position) (pattern : Expr)
  | pattern (pos : Position) (subject : Expr)
  | firstCondition (pos : Position) (op : LogicalOp) (second : Expr)
  | secondCondition (pos : Position) (op : LogicalOp) (first : Expr)
  | argument (pos : Position) (function : String) (front behind : List Expr)

namespace Slot

/-- The node with an operand put in. -/
def fill : Slot → Expr → Expr
  | operand pos op, e => .unary pos op e
  | leftOperand pos op right, e => .binary pos op e right
  | rightOperand pos op left, e => .binary pos op left e
  | leftSide pos op right, e => .comparison pos op e right
  | rightSide pos op left, e => .comparison pos op left e
  | subject pos other, e => .pattern pos e other
  | pattern pos other, e => .pattern pos other e
  | firstCondition pos op second, e => .logical pos op e second
  | secondCondition pos op first, e => .logical pos op first e
  | argument pos function front behind, e => .call pos function (front ++ e :: behind)

/-- Where a fault of an operand at `p` is placed: where the operand stands, if it is a condition or
an argument, and where the operator stands otherwise. -/
def place : Slot → Position → Position
  | operand pos _, _ | leftOperand pos _ _, _ | rightOperand pos _ _, _ | leftSide pos _ _, _
  | rightSide pos _ _, _ | subject pos _, _ | pattern pos _, _ => pos
  | firstCondition _ _ _, p | secondCondition _ _ _, p | argument _ _ _ _, p => p

section Evaluation

variable (config : Config) (record : Record)

/-- The type that the node resolves its open operand to if this is a field. A field beside a value
takes the type of the value, and beside another field it is a text. A condition that is not asked
for and an argument for a parameter without a type are not resolved at all. -/
def expected : Slot → Option ValueType
  | operand _ op => some op.operandType
  | leftOperand _ op _ | rightOperand _ op _ => some op.operandType
  | leftSide _ _ other | rightSide _ _ other =>
    (other.evaluate config record).result.toOption.map fun o => o.strongType.getD .string
  | subject _ _ | pattern _ _ => some .string
  | firstCondition _ _ _ => some .boolean
  | secondCondition _ op first =>
    (first.condition config record).result.toOption.bind fun holds =>
      if op.decides holds then none else some .boolean
  | argument _ function front _ =>
    (Builtin.ofName? function).bind fun f => (f.param front.length).valueType?

/-- The operands that are looked at before the open one give no error. This is so wherever all other
operands resolve, but an argument behind the open one need not even be a value. -/
def IsReached : Slot → Prop
  | operand _ _ | firstCondition _ _ _ => True
  | leftOperand _ _ other | leftSide _ _ other | rightSide _ _ other | subject _ other =>
    ∃ o, (other.evaluate config record).result = .ok o
  | rightOperand _ op left =>
    ∃ o v, (left.evaluate config record).result = .ok o ∧ o.resolve op.operandType = .ok v
  | pattern _ other =>
    ∃ o v, (other.evaluate config record).result = .ok o ∧ o.resolve .string = .ok v
  | secondCondition _ _ first => ∃ holds, (first.condition config record).result = .ok holds
  | argument _ function front _ =>
    ∃ f os, Builtin.ofName? function = some f ∧
      (evaluateArgs config record f 0 front).result = .ok os

end Evaluation

/-- The node resolves its open operand at `p` to the type, and looks at nothing else of it. What it
does before that is the same for all operands, and so is what it does with the value. -/
def Resolves (config : Config) (record : Record) (slot : Slot) (type : ValueType) (p : Position) :
    Prop :=
  ∃ (α : Type) (before : Outcome EvalError α) (after : α → Value → Outcome EvalError Operand),
    (slot.IsReached config record → ∃ a, before.result = .ok a) ∧
    ∀ (e : Expr) (o : Operand), e.position = p → e.evaluate config record = .succeed o →
      (o.strongType = none ∨ o.strongType = some type) →
      (slot.fill e).evaluate config record =
        before >>= fun a => placed (slot.place p) (o.resolve type) >>= fun v => after a v

variable {config : Config} {record : Record} {type : ValueType} {p : Position}

theorem resolves_operand (pos : Position) (op : UnaryOp) :
    (operand pos op).Resolves config record op.operandType p := by
  obtain ⟨f, hf⟩ := op.exists_apply_eq
  refine ⟨Unit, pure (), fun _ v => pure (.value (f v)), fun _ => ⟨(), rfl⟩, fun e o _ he _ => ?_⟩
  rw [fill, Expr.evaluate, he, Outcome.succeed_bind, hf, Outcome.placed_map, Outcome.pure_bind_eq,
    Outcome.bind_bind]
  rfl

theorem resolves_leftOperand (pos : Position) (op : BinaryOp) (right : Expr) :
    (leftOperand pos op right).Resolves config record op.operandType p := by
  obtain ⟨f, hf⟩ := op.exists_apply_eq
  refine ⟨Operand, right.evaluate config record, fun r v => placed pos
    (r.resolve op.operandType >>= fun w => f v w) >>= fun value => pure (.value value), id,
    fun e o _ he _ => ?_⟩
  rw [fill, Expr.evaluate, he, Outcome.succeed_bind]
  simp only [hf, Outcome.placed_bind, Outcome.bind_bind]
  rfl

theorem resolves_rightOperand (pos : Position) (op : BinaryOp) (left : Expr) :
    (rightOperand pos op left).Resolves config record op.operandType p := by
  obtain ⟨f, hf⟩ := op.exists_apply_eq
  refine ⟨Value, left.evaluate config record >>= fun l => placed pos (l.resolve op.operandType),
    fun v w => placed pos (f v w) >>= fun value => pure (.value value), ?_, fun e o _ he _ => ?_⟩
  · rintro ⟨l, v, hl, hv⟩
    exact ⟨v, by simp [hl, hv]⟩
  · rw [fill, Expr.evaluate, he]
    simp only [hf, Outcome.placed_bind, Outcome.bind_bind, Outcome.succeed_bind]
    rfl

theorem resolves_leftSide {pos : Position} {op : CompareOp} {right : Expr} {r : Operand}
    (hright : (right.evaluate config record).result = .ok r) :
    (leftSide pos op right).Resolves config record (r.strongType.getD .string) p := by
  obtain ⟨f, hf⟩ := op.exists_apply_eq (r.strongType.getD .string)
  refine ⟨Operand, right.evaluate config record, fun r v => placed pos
    (r.resolve (r.strongType.getD .string) >>= fun w => f v w) >>= fun holds =>
      pure (.value (.boolean holds)), id, fun e o _ he ho => ?_⟩
  rw [fill, Expr.evaluate, he, Outcome.succeed_bind]
  -- the type is that of the value which the other side has; for others nothing is said
  refine Outcome.bind_congr_of_result hright ?_
  rw [hf o r (op.commonType_of_left ho rfl)]
  simp only [Outcome.placed_bind, Outcome.bind_bind]
  rfl

theorem resolves_rightSide {pos : Position} {op : CompareOp} {left : Expr} {l : Operand}
    (hleft : (left.evaluate config record).result = .ok l) :
    (rightSide pos op left).Resolves config record (l.strongType.getD .string) p := by
  obtain ⟨f, hf⟩ := op.exists_apply_eq (l.strongType.getD .string)
  refine ⟨Value, left.evaluate config record >>= fun l => placed pos
      (l.resolve (l.strongType.getD .string)),
    fun v w => placed pos (f v w) >>= fun holds => pure (.value (.boolean holds)), fun _ => ?_,
    fun e o _ he ho => ?_⟩
  · obtain ⟨v, hv⟩ := l.exists_resolve_eq_ok
    exact ⟨v, by simp [hleft, hv]⟩
  · rw [fill, Expr.evaluate, he, Outcome.bind_bind]
    refine Outcome.bind_congr_of_result hleft ?_
    rw [Outcome.succeed_bind, hf l o (op.commonType_of_right rfl ho)]
    simp only [Outcome.placed_bind, Outcome.bind_bind]
    rfl

theorem resolves_subject (pos : Position) (other : Expr) :
    (subject pos other).Resolves config record .string p := by
  choose f hf using config.exists_isMatch_eq_subject
  refine ⟨Operand, other.evaluate config record, fun pattern v => placed pos (f pattern v) >>=
    fun holds => pure (.value (.boolean holds)), id, fun e o _ he _ => ?_⟩
  rw [fill, Expr.evaluate, he, Outcome.succeed_bind]
  simp only [hf, Outcome.placed_bind, Outcome.bind_bind]
  rfl

theorem resolves_pattern (pos : Position) (other : Expr) :
    (pattern pos other).Resolves config record .string p := by
  obtain ⟨f, hf⟩ := config.exists_isMatch_eq_pattern
  refine ⟨Value, other.evaluate config record >>= fun subject => placed pos
      (subject.resolve .string),
    fun v w => pure (.value (.boolean (f v w))), ?_, fun e o _ he ho => ?_⟩
  · rintro ⟨o, v, ho, hv⟩
    exact ⟨v, by simp [ho, hv]⟩
  · have hregex : o.strongType ≠ some .regex := by rcases ho with ho | ho <;> simp [ho]
    rw [fill, Expr.evaluate, he]
    simp only [Outcome.succeed_bind, hf _ _ hregex, Outcome.placed_bind, Outcome.placed_map,
      Outcome.bind_bind, Outcome.pure_bind_eq]
    rfl

theorem resolves_firstCondition (pos : Position) (op : LogicalOp) (second : Expr) :
    (firstCondition pos op second).Resolves config record .boolean p := by
  obtain ⟨truth, htruth⟩ := Operand.exists_toBoolean_eq_map
  refine ⟨Unit, pure (), fun _ v => (if op.decides (truth v) then pure (truth v)
    else second.condition config record) >>= fun holds => pure (.value (.boolean holds)),
    fun _ => ⟨(), rfl⟩, fun e o hp he _ => ?_⟩
  rw [fill, Expr.evaluate_logical, Expr.condition_of_evaluate he, hp, htruth, Outcome.placed_map,
    Outcome.pure_bind_eq]
  simp only [Outcome.bind_bind, Outcome.pure_bind_eq]
  rfl

theorem resolves_secondCondition {pos : Position} {op : LogicalOp} {first : Expr} {holds : Bool}
    (hfirst : (first.condition config record).result = .ok holds)
    (hdecides : op.decides holds = false) :
    (secondCondition pos op first).Resolves config record .boolean p := by
  obtain ⟨truth, htruth⟩ := Operand.exists_toBoolean_eq_map
  refine ⟨Bool, first.condition config record, fun _ v => pure (.value (.boolean (truth v))), id,
    fun e o hp he _ => ?_⟩
  rw [fill, Expr.evaluate_logical, Outcome.bind_bind]
  -- the second condition is asked for, because the first one does not decide
  refine Outcome.bind_congr_of_result hfirst ?_
  rw [hdecides, if_neg Bool.false_ne_true, Expr.condition_of_evaluate he, hp, htruth,
    Outcome.placed_map, Outcome.bind_bind]
  simp only [Outcome.pure_bind_eq]
  rfl

theorem resolves_argument {pos : Position} {function : String} {front behind : List Expr}
    {f : Builtin} (hf : Builtin.ofName? function = some f)
    (htype : (f.param front.length).valueType? = some type) :
    (argument pos function front behind).Resolves config record type p := by
  refine ⟨List Operand, evaluateArgs config record f 0 front, fun os v =>
    (evaluateArgs config record f (front.length + 1) behind >>= fun os' =>
      (f.call config record (os ++ .value v :: os')).placed pos) >>= fun value =>
        pure (.value value), ?_, fun e o hp he _ => ?_⟩
  · rintro ⟨f', os, hf', hos⟩
    obtain rfl : f = f' := Option.some.inj (hf.symm.trans hf')
    exact ⟨os, hos⟩
  · -- the parameter is the one at the index behind the arguments in front
    have hargs : evaluateArgs config record f 0 (front ++ e :: behind) =
        evaluateArgs config record f 0 front >>= fun os =>
          placed p (o.resolve type) >>= fun v =>
            evaluateArgs config record f (front.length + 1) behind >>= fun os' =>
              pure (os ++ .value v :: os') := by
      rw [evaluateArgs_append, Nat.zero_add, evaluateArgs, he, Outcome.succeed_bind, hp,
        ParamType.accept_eq htype, Outcome.placed_map]
      simp only [Outcome.bind_bind, Outcome.pure_bind_eq]
    rw [fill, Expr.evaluate, hf]
    simp only [hargs, Outcome.bind_bind, Outcome.pure_bind_eq]
    rfl

/-- A node resolves its open operand to the expected type. -/
theorem resolves_of_expected {slot : Slot} (h : slot.expected config record = some type) :
    slot.Resolves config record type p := by
  cases slot with
  | operand pos op =>
    obtain rfl := Option.some.inj h
    exact resolves_operand pos op
  | leftOperand pos op right =>
    obtain rfl := Option.some.inj h
    exact resolves_leftOperand pos op right
  | rightOperand pos op left =>
    obtain rfl := Option.some.inj h
    exact resolves_rightOperand pos op left
  | leftSide pos op right =>
    obtain ⟨r, hr, rfl⟩ := Option.map_eq_some_iff.mp h
    exact resolves_leftSide (Result.toOption_eq_some.mp hr)
  | rightSide pos op left =>
    obtain ⟨l, hl, rfl⟩ := Option.map_eq_some_iff.mp h
    exact resolves_rightSide (Result.toOption_eq_some.mp hl)
  | subject pos other =>
    obtain rfl := Option.some.inj h
    exact resolves_subject pos other
  | pattern pos other =>
    obtain rfl := Option.some.inj h
    exact resolves_pattern pos other
  | firstCondition pos op second =>
    obtain rfl := Option.some.inj h
    exact resolves_firstCondition pos op second
  | secondCondition pos op first =>
    obtain ⟨holds, hholds, hdecides⟩ := Option.bind_eq_some_iff.mp h
    split at hdecides
    · cases hdecides
    · rename_i hnot
      obtain rfl := Option.some.inj hdecides
      exact resolves_secondCondition (Result.toOption_eq_some.mp hholds)
        (Bool.eq_false_iff.mpr hnot)
  | argument pos function front behind =>
    obtain ⟨f, hf, htype⟩ := Option.bind_eq_some_iff.mp h
    exact resolves_argument hf htype

/-- Where neither a text nor a number is expected, there is nothing before the open operand that
could fail. -/
theorem isReached_of_expected {slot : Slot} (h : slot.expected config record = some type)
    (hstring : type ≠ .string) (hnumber : type ≠ .number) : slot.IsReached config record := by
  cases slot with
  | operand | firstCondition => trivial
  | leftOperand pos op other | rightOperand pos op other =>
    obtain rfl := Option.some.inj h
    cases op <;> simp [BinaryOp.operandType] at hstring hnumber
  | leftSide pos op other | rightSide pos op other =>
    obtain ⟨o, ho, -⟩ := Option.map_eq_some_iff.mp h
    exact ⟨o, Result.toOption_eq_some.mp ho⟩
  | subject | pattern => exact absurd (Option.some.inj h).symm hstring
  | secondCondition pos op first =>
    obtain ⟨holds, hholds, -⟩ := Option.bind_eq_some_iff.mp h
    exact ⟨holds, Result.toOption_eq_some.mp hholds⟩
  | argument pos function front behind =>
    obtain ⟨f, -, htype⟩ := Option.bind_eq_some_iff.mp h
    cases hparam : f.param front.length <;> rw [hparam] at htype <;> cases htype <;> contradiction

section Field

variable {slot : Slot} {name : String}

/-- A field acts as the value that it resolves to. -/
theorem evaluate_fill_of_resolve (h : slot.expected config record = some type) {v : Value}
    (hv : (Operand.field name (record.get name)).resolve type = .ok v) :
    (slot.fill (.field p name)).evaluate config record =
      (slot.fill (.literal p v)).evaluate config record := by
  obtain ⟨α, before, after, -, heval⟩ := resolves_of_expected (p := p) h
  have htype : v.type = type := Operand.type_of_resolve hv
  have hvalue : (Operand.value v).resolve type = .ok v := if_pos htype
  rw [heval _ (.field name (record.get name)) rfl rfl (.inl rfl),
    heval _ (.value v) rfl rfl (.inr (congrArg some htype)), hv, hvalue]

/-- Where a field does not resolve, the node fails, and it fails as the field does if this is what
it comes to first. -/
theorem result_fill_of_resolve_eq_error (h : slot.expected config record = some type)
    {fault : Fault}
    (hfault : (Operand.field name (record.get name)).resolve type = .error fault) :
    (∃ e, ((slot.fill (.field p name)).evaluate config record).result = .error e) ∧
      (slot.IsReached config record →
        ((slot.fill (.field p name)).evaluate config record).result =
          .error ⟨fault, slot.place p⟩) := by
  obtain ⟨α, before, after, hreached, heval⟩ := resolves_of_expected (p := p) h
  rw [heval _ (.field name (record.get name)) rfl rfl (.inl rfl), hfault]
  constructor
  · cases hbefore : before.result with
    | error e => exact ⟨e, by simp [hbefore]⟩
    | ok a => exact ⟨⟨fault, slot.place p⟩, by simp [hbefore]⟩
  · intro h
    obtain ⟨a, ha⟩ := hreached h
    simp [ha]

end Field

/-- What the node gives for a field at `p`, if it resolves its open operand to the type: what it
gives for the text of the field, or for the number that is read from this. If no number can be read
from it, the node fails to cast it, unless it fails before that; and as a value of another type it
refuses it. -/
def ReadsField (config : Config) (record : Record) (slot : Slot) (p : Position) (name : String) :
    ValueType → Prop
  | .string =>
    (slot.fill (.field p name)).evaluate config record =
      (slot.fill (.literal p (.string (record.get name)))).evaluate config record
  | .number =>
    (∀ n, Decimal.parse (record.get name) = some n →
      (slot.fill (.field p name)).evaluate config record =
        (slot.fill (.literal p (.number n))).evaluate config record) ∧
    (Decimal.parse (record.get name) = none →
      (∃ e, ((slot.fill (.field p name)).evaluate config record).result = .error e) ∧
      (slot.IsReached config record →
        ((slot.fill (.field p name)).evaluate config record).result =
          .error ⟨.cast (some name) (record.get name) .number, slot.place p⟩))
  | type =>
    ((slot.fill (.field p name)).evaluate config record).result =
      .error ⟨.type (.fieldUse name type), slot.place p⟩

theorem readsField_of_expected {slot : Slot} (h : slot.expected config record = some type)
    (p : Position) (name : String) : slot.ReadsField config record p name type := by
  have hrefused (hstring : type ≠ .string) (hnumber : type ≠ .number)
      (hfield : (Operand.field name (record.get name)).resolve type =
        .error (.type (.fieldUse name type))) :
      ((slot.fill (.field p name)).evaluate config record).result =
        .error ⟨.type (.fieldUse name type), slot.place p⟩ :=
    (result_fill_of_resolve_eq_error h hfield).2 (isReached_of_expected h hstring hnumber)
  cases type with
  | string => exact evaluate_fill_of_resolve h rfl
  | number =>
    refine ⟨fun n hn => evaluate_fill_of_resolve h ?_, fun hnone => ?_⟩
    · rw [Operand.resolve, hn]
    · exact result_fill_of_resolve_eq_error h (Operand.resolve_field_of_parse_eq_none hnone)
  | none | boolean | regex => exact hrefused (by decide) (by decide) rfl

end Slot

namespace CompareOp

/-- Beside a value a field is compared as the value that it resolves to for the type of the other
one, on either side. -/
theorem apply_field_beside (op : CompareOp) (name text : String) (v : Value) :
    (op.apply (.field name text) (.value v) =
      (Operand.field name text).resolve v.type >>= fun w => op.apply (.value w) (.value v)) ∧
    (op.apply (.value v) (.field name text) =
      (Operand.field name text).resolve v.type >>= fun w => op.apply (.value v) (.value w)) := by
  obtain ⟨f, hf⟩ := op.exists_apply_eq v.type
  have hv : (Operand.value v).resolve v.type = .ok v := if_pos rfl
  rw [hf _ _ (op.commonType_of_left (.inl rfl) rfl), hf _ _ (op.commonType_of_right rfl (.inl rfl)),
    hv]
  cases h : (Operand.field name text).resolve v.type with
  | error fault => exact ⟨rfl, rfl⟩
  | ok w =>
    have hw : w.type = v.type := Operand.type_of_resolve h
    have hself : (Operand.value w).resolve v.type = .ok w := if_pos hw
    have hstrong : (Operand.value w).strongType = some v.type := congrArg some hw
    simp only [Result.ok_bind]
    rw [hf (.value w) (.value v) (op.commonType_of_left (.inr hstrong) rfl),
      hf (.value v) (.value w) (op.commonType_of_right rfl (.inr hstrong)), hself, hv]
    exact ⟨rfl, rfl⟩

end CompareOp

/-- A field acts as the value of the type that the operator or the parameter around it expects,
whatever the other operands are: as its text, or as the number that is read from it, without any
other difference. In a comparison a field takes the type of the value beside it, and two fields are
texts. -/
theorem field_acts_as_expected (config : Config) (record : Record) :
    (∀ (slot : Slot) (type : ValueType) (p : Position) (name : String),
      slot.expected config record = some type → slot.ReadsField config record p name type) ∧
    (∀ (op : CompareOp) (m n s t : String),
      op.apply (.field m s) (.field n t) = op.apply (.value (.string s)) (.value (.string t))) ∧
    (∀ (op : CompareOp) (name text : String) (v : Value),
      (op.apply (.field name text) (.value v) =
        (Operand.field name text).resolve v.type >>= fun w => op.apply (.value w) (.value v)) ∧
      (op.apply (.value v) (.field name text) =
        (Operand.field name text).resolve v.type >>= fun w => op.apply (.value v) (.value w))) :=
  ⟨fun _ _ p name h => Slot.readsField_of_expected h p name, fun _ _ _ _ _ => rfl,
    fun op => op.apply_field_beside⟩

end RecordScript

namespace RecordScript

/-- A field beside a number, one that no number can be read from, and one under a negation. -/
theorem field_acts_as_expected_amount :
    let record := Record.ofList [("amount", "-20.00"), ("payee", "Moe")]
    let zero : Expr := .literal default (.number ⟨0, 0⟩)
    let place : Position := ⟨"main", 1, 8⟩
    Expr.evaluate {} record (.comparison default .lt (.field default "amount") zero) =
      Expr.evaluate {} record
        (.comparison default .lt (.literal default (.number ⟨-2000, 2⟩)) zero) ∧
    (Expr.evaluate {} record (.binary place .add zero (.field default "payee"))).result =
      .error ⟨.cast (some "payee") "Moe" .number, place⟩ ∧
    (Expr.evaluate {} record (.unary place .not (.field default "amount"))).result =
      .error ⟨.type (.fieldUse "amount" .boolean), place⟩ := by
  intro record zero place
  have h := (field_acts_as_expected {} record).1
  refine ⟨?_, ?_, ?_⟩
  · exact (h (.leftSide default .lt zero) .number default "amount" rfl).1 ⟨-2000, 2⟩
      (by decide +kernel)
  · exact ((h (.rightOperand place .add zero) .number default "payee" rfl).2 (by decide +kernel)).2
      ⟨.value (.number ⟨0, 0⟩), .number ⟨0, 0⟩, rfl, rfl⟩
  · exact h (.operand place .not) .boolean default "amount" rfl

end RecordScript
