import RecordScript.Execution
import RecordScript.Proofs.Typing.Soundness

/-!
# Faults of prepared programs

What can go wrong where every node is prepared. Operators and functions fail only for their operands,
never because a function is missing, has too few arguments, or because a pattern is bare; and an
error stands where the node stands that found it, or the assignment whose value could not be stored.
-/

namespace RecordScript

variable [RegexEngine]

/-- The fault can come up though a program has been prepared. -/
def Fault.IsOrdinary : Fault → Prop
  | .type (.argumentCount _ _) | .unknownFunction _ | .unboundPattern => False
  | _ => True

/-- The result is a value or an ordinary fault. -/
def IsOrdinary {α : Type} (r : Except Fault α) : Prop := ∀ fault, r = .error fault → fault.IsOrdinary

namespace IsOrdinary

variable {α β : Type}

theorem ok (a : α) : IsOrdinary (.ok a : Except Fault α) := by
  intro fault h
  cases h

theorem error {fault : Fault} (h : fault.IsOrdinary) :
    IsOrdinary (.error fault : Except Fault α) := by
  rintro _ ⟨⟩
  exact h

theorem bind {r : Except Fault α} {f : α → Except Fault β} (hr : IsOrdinary r)
    (hf : ∀ a, IsOrdinary (f a)) : IsOrdinary (r >>= f) := by
  cases r with
  | ok a => exact hf a
  | error fault => exact .error (hr fault rfl)

theorem map {r : Except Fault α} {f : α → β} (hr : IsOrdinary r) : IsOrdinary (r.map f) := by
  cases r with
  | ok a => exact .ok _
  | error fault => exact .error (hr fault rfl)

end IsOrdinary

/-! ### Operands -/

namespace Operand

theorem mismatch_isOrdinary (expected : ValueType) (v : Value) :
    (mismatch expected v).IsOrdinary := by
  cases v <;> exact trivial

theorem resolve_isOrdinary (o : Operand) (type : ValueType) : IsOrdinary (o.resolve type) := by
  cases o with
  | field name text =>
    cases type with
    | string => exact .ok _
    | number =>
      rw [resolve]
      split
      · exact .ok _
      · exact .error trivial
    | _ => exact .error trivial
  | value v =>
    rw [resolve]
    split
    · exact .ok _
    · exact .error (mismatch_isOrdinary _ _)

/-- What an operand resolves to has the type that it is resolved to. -/
theorem type_of_resolve {o : Operand} {type : ValueType} {v : Value} (h : o.resolve type = .ok v) :
    v.type = type := by
  cases o with
  | field name text =>
    cases type with
    | string =>
      cases h
      rfl
    | number =>
      rw [resolve] at h
      split at h <;> cases h
      rfl
    | _ => cases h
  | value w =>
    rw [resolve] at h
    split at h
    · rename_i htype
      cases h
      exact htype
    · cases h

/-- The operand resolved to a type and opened, where `arm` answers if the value that it resolves to
cannot be opened. -/
def resolveThen {α : Type} (o : Operand) (type : ValueType) (open? : Value → Option α)
    (arm : Value → Fault) : Except Fault α := do
  let v ← o.resolve type
  match open? v with
  | some a => return a
  | none => throw (arm v)

/-- The text of a text value. -/
def textOf? : Value → Option String
  | .string s => some s
  | _ => none

/-- The number of a number value. -/
def numberOf? : Value → Option Decimal
  | .number n => some n
  | _ => none

/-- The truth value of a truth value. -/
def booleanOf? : Value → Option Bool
  | .boolean b => some b
  | _ => none

/-- An operand that resolves to a text is one, so that what would answer otherwise is never asked. -/
theorem resolveThen_string (o : Operand) (arm : Value → Fault) :
    o.resolveThen .string textOf? arm = o.toText := by
  cases o with
  | field name text => rfl
  | value v => cases v <;> rfl

theorem resolveThen_number (o : Operand) (arm : Value → Fault) :
    o.resolveThen .number numberOf? arm = o.toNumber := by
  cases o with
  | field name text =>
    rw [resolveThen, resolve, toNumber]
    cases Decimal.parse text <;> rfl
  | value v => cases v <;> rfl

theorem resolveThen_boolean (o : Operand) (arm : Value → Fault) :
    o.resolveThen .boolean booleanOf? arm = o.toBoolean := by
  cases o with
  | field name text => rfl
  | value v => cases v <;> rfl

theorem toText_isOrdinary (o : Operand) : IsOrdinary o.toText := by
  cases o with
  | field name text => exact .ok _
  | value v =>
    cases v with
    | string s => exact .ok _
    | _ => exact .error trivial

theorem toNumber_isOrdinary (o : Operand) : IsOrdinary o.toNumber := by
  cases o with
  | field name text =>
    rw [toNumber]
    split
    · exact .ok _
    · exact .error trivial
  | value v =>
    cases v with
    | number n => exact .ok _
    | _ => exact .error trivial

theorem toBoolean_isOrdinary (o : Operand) : IsOrdinary o.toBoolean := by
  cases o with
  | field name text => exact .error trivial
  | value v =>
    cases v with
    | boolean b => exact .ok _
    | _ => exact .error trivial

theorem fieldText_isOrdinary (o : Operand) (target : Option String) :
    IsOrdinary (o.fieldText target) := by
  cases o with
  | field name text => exact .ok _
  | value v =>
    rw [fieldText]
    split
    · exact .ok _
    · exact .error trivial

end Operand

/-! ### Operators and functions -/

theorem UnaryOp.apply_isOrdinary (op : UnaryOp) (o : Operand) : IsOrdinary (op.apply o) := by
  cases op with
  | plus | minus => exact o.toNumber_isOrdinary.map
  | not => exact o.toBoolean_isOrdinary.map

theorem BinaryOp.arithmetic_isOrdinary {op : BinaryOp}
    {compute : Decimal → Decimal → Except Fault Decimal} (h : op.arithmetic? = some compute)
    (a b : Decimal) : IsOrdinary (compute a b) := by
  have hnonzero : ∀ f, IsOrdinary (byNonzero f a b) := by
    intro f
    rw [byNonzero]
    split
    · exact .error trivial
    · exact .ok _
  cases op with
  | div | rem =>
    cases h
    exact hnonzero _
  | concat => cases h
  | _ =>
    cases h
    exact .ok _

theorem BinaryOp.apply_isOrdinary (op : BinaryOp) (left right : Operand) :
    IsOrdinary (op.apply left right) := by
  rw [BinaryOp.apply]
  cases h : op.arithmetic? with
  | some compute =>
    exact left.toNumber_isOrdinary.bind fun a => right.toNumber_isOrdinary.bind fun b =>
      (arithmetic_isOrdinary h a b).bind fun _ => .ok _
  | none =>
    exact left.toText_isOrdinary.bind fun _ => right.toText_isOrdinary.bind fun _ => .ok _

theorem CompareOp.apply_isOrdinary (op : CompareOp) (left right : Operand) :
    IsOrdinary (op.apply left right) := by
  have hcommon : IsOrdinary (op.commonType left right) := by
    rw [commonType]
    split
    · exact .ok _
    · exact .ok _
    · exact .ok _
    · split
      · exact .ok _
      · exact .error trivial
  refine hcommon.bind fun type => (left.resolve_isOrdinary type).bind fun a =>
    (right.resolve_isOrdinary type).bind fun b => ?_
  split
  · exact .ok _
  · exact .error trivial

theorem Config.isMatch_isOrdinary (config : Config) (subject pattern : Operand) :
    IsOrdinary (config.isMatch subject pattern) := by
  refine subject.toText_isOrdinary.bind fun s => ?_
  split
  · exact .ok _
  · exact pattern.toText_isOrdinary.bind fun _ => .ok _

theorem ParamType.accept_isOrdinary (t : ParamType) (o : Operand) : IsOrdinary (t.accept o) := by
  cases t with
  | string | number => exact (o.resolve_isOrdinary _).map
  | any => exact .ok _

namespace Builtin

theorem readNumber_isOrdinary (field : Option String) (text : String) :
    IsOrdinary (readNumber field text) := by
  rw [readNumber]
  split
  · exact .ok _
  · exact .error trivial

theorem toInteger_isOrdinary (o : Operand) : IsOrdinary (toInteger o) := by
  refine o.toNumber_isOrdinary.bind fun n => ?_
  split
  · exact .ok _
  · exact .error trivial

theorem callAsNumber_isOrdinary (o : Operand) : IsOrdinary (callAsNumber [o]) := by
  cases o with
  | field name text =>
    rw [callAsNumber]
    exact readNumber_isOrdinary _ _
  | value v =>
    cases v with
    | string s =>
      rw [callAsNumber]
      exact readNumber_isOrdinary _ _
    | number n => exact .ok _
    | _ => exact .error trivial

theorem callReadDate_isOrdinary (text format : Operand) :
    IsOrdinary (callReadDate [text, format]) := by
  rw [callReadDate]
  refine text.toText_isOrdinary.bind fun text => format.toText_isOrdinary.bind fun format => ?_
  cases Date.read text format with
  | ok date => exact .ok _
  | error problem => exact .error trivial

theorem callSubstring_isOrdinary (text start stop : Operand) :
    IsOrdinary (callSubstring [text, start, stop]) := by
  rw [callSubstring]
  exact text.toText_isOrdinary.bind fun _ => (toInteger_isOrdinary start).bind fun _ =>
    (toInteger_isOrdinary stop).bind fun _ => .ok _

/-- A function that is given as many arguments as it takes does not complain about their number. -/
theorem call_isOrdinary {f : Builtin} {config : Config} {record : Record} {os : List Operand}
    (harity : f.arity.accepts os.length = true) :
    IsOrdinary (f.call config record os).result := by
  cases f with
  | asNumber =>
    obtain ⟨o, rfl⟩ : ∃ o, os = [o] := List.length_eq_one_iff.mp (of_decide_eq_true harity)
    exact callAsNumber_isOrdinary o
  | log =>
    rw [call, callLog]
    split
    · exact .error trivial
    · exact .ok _
  | readDate =>
    obtain ⟨a, b, rfl⟩ : ∃ a b, os = [a, b] := List.length_eq_two.mp (of_decide_eq_true harity)
    exact callReadDate_isOrdinary a b
  | substring =>
    obtain ⟨a, b, c, rfl⟩ : ∃ a b c, os = [a, b, c] :=
      List.length_eq_three.mp (of_decide_eq_true harity)
    exact callSubstring_isOrdinary a b c
  | recordText | inputProtocol | outputProtocol => exact .ok _

end Builtin

/-! ### Expressions -/

/-- All errors of the outcome have the property. -/
def Outcome.FailsOnly {α : Type} (P : EvalError → Prop) (x : Outcome EvalError α) : Prop :=
  ∀ e, x.result = .error e → P e

namespace Outcome.FailsOnly

variable {α β : Type} {P Q : EvalError → Prop}

theorem succeed (a : α) : FailsOnly P (Outcome.succeed a) := by
  intro e h
  cases h

theorem mono {x : Outcome EvalError α} (h : x.FailsOnly P) (hPQ : ∀ e, P e → Q e) :
    x.FailsOnly Q :=
  fun e he => hPQ e (h e he)

/-- What follows needs to be looked at only for the values that come up. -/
theorem bind {x : Outcome EvalError α} {f : α → Outcome EvalError β} (hx : x.FailsOnly P)
    (hf : ∀ a, x.result = .ok a → (f a).FailsOnly P) : (x >>= f).FailsOnly P := by
  obtain ⟨log, result⟩ := x
  cases result with
  | ok a => exact hf a rfl
  | error e =>
    rintro _ ⟨⟩
    exact hx e rfl

theorem placed {x : Outcome Fault α} {pos : Position}
    (h : ∀ fault, x.result = .error fault → P ⟨fault, pos⟩) : (x.placed pos).FailsOnly P := by
  obtain ⟨log, result⟩ := x
  intro e he
  cases result with
  | ok a => cases he
  | error fault =>
    cases he
    exact h fault rfl

theorem placed_except {r : Except Fault α} {pos : Position}
    (h : ∀ fault, r = .error fault → P ⟨fault, pos⟩) : (RecordScript.placed pos r).FailsOnly P :=
  placed h

end Outcome.FailsOnly

/-- The error is an ordinary fault at the place of a node of the expression. -/
def Expr.Explains (e : Expr) (error : EvalError) : Prop :=
  error.fault.IsOrdinary ∧ ∃ x ∈ e.nodes, x.position = error.position

namespace Expr

variable {config : Config} {record : Record}

theorem explains_self {e : Expr} {fault : Fault} (h : fault.IsOrdinary) :
    e.Explains ⟨fault, e.position⟩ :=
  ⟨h, e, e.self_mem_nodes, rfl⟩

theorem explains_of_child {e c : Expr} (hc : c ∈ e.children) {error : EvalError}
    (h : Expr.Explains c error) : e.Explains error := by
  obtain ⟨hordinary, x, hx, hpos⟩ := h
  exact ⟨hordinary, x, ExprOf.mem_nodes_iff.mpr (.inr ⟨c, hc, hx⟩), hpos⟩

/-- An ordinary fault at the place of a child. -/
theorem explains_at_child {e c : Expr} (hc : c ∈ e.children) {fault : Fault}
    (h : fault.IsOrdinary) : e.Explains ⟨fault, c.position⟩ :=
  explains_of_child hc (explains_self h)

/-- What a node computes from its operands fails at the place of the node. -/
theorem operation_failsOnly {α : Type} (e : Expr) {r : Except Fault α} (h : IsOrdinary r)
    (toOperand : α → Operand) :
    (placed e.position r >>= fun a => .succeed (toOperand a)).FailsOnly e.Explains :=
  .bind (.placed_except fun fault hfault => explains_self (h fault hfault)) fun _ _ => .succeed _

/-- The operands of a node with two of them, and what is computed from these. -/
theorem twoOperands_failsOnly {P : EvalError → Prop} {left right : Expr}
    (hchild : ∀ c ∈ [left, right], (Expr.evaluate config record c).FailsOnly P)
    {next : Operand → Operand → Outcome EvalError Operand} (hnext : ∀ a b, (next a b).FailsOnly P) :
    (do next (← Expr.evaluate config record left) (← Expr.evaluate config record right)).FailsOnly
      P :=
  (hchild left (.head _)).bind fun a _ => (hchild right (.tail _ (.head _))).bind fun b _ =>
    hnext a b

theorem evaluateArgs_failsOnly {P : EvalError → Prop} {f : Builtin} {index : Nat}
    {args : List Expr} (hargs : ∀ arg ∈ args, (Expr.evaluate config record arg).FailsOnly P)
    (hpos : ∀ arg ∈ args, ∀ fault : Fault, fault.IsOrdinary → P ⟨fault, arg.position⟩) :
    (evaluateArgs config record f index args).FailsOnly P := by
  induction args generalizing index with
  | nil => exact .succeed _
  | cons arg args ih =>
    obtain ⟨harg, hrest⟩ := List.forall_mem_cons.mp hargs
    obtain ⟨hargPos, hrestPos⟩ := List.forall_mem_cons.mp hpos
    rw [evaluateArgs]
    refine harg.bind fun o _ => .bind (.placed_except fun fault hfault => ?_) fun o' _ => ?_
    · exact hargPos fault ((f.param index).accept_isOrdinary o fault hfault)
    · exact (ih hrest hrestPos).bind fun _ _ => .succeed _

/-- An expression whose nodes are prepared fails only with ordinary faults, each at the place of one
of its nodes. -/
theorem evaluate_failsOnly {e : Expr} (hprepared : ∀ x ∈ e.nodes, Expr.IsPrepared x) :
    (e.evaluate config record).FailsOnly e.Explains := by
  induction e using ExprOf.inductionOnChildren with
  | step e ih =>
    obtain ⟨hnode, hbelow⟩ := ExprOf.forall_nodes_iff.mp hprepared
    have hchild : ∀ c ∈ e.children, (Expr.evaluate config record c).FailsOnly (Expr.Explains e) :=
      fun c hc => (ih c hc (hbelow c hc)).mono fun _ => explains_of_child hc
    cases e with
    | literal pos value => exact .succeed _
    | field pos name => exact .succeed _
    | call pos function args =>
      obtain ⟨f, hf, harity⟩ := hnode
      simp only [Expr.evaluate, hf]
      have hargs : (evaluateArgs config record f 0 args).FailsOnly
          (Expr.Explains (.call pos function args)) :=
        evaluateArgs_failsOnly hchild fun arg harg _ =>
          explains_at_child (e := .call pos function args) harg
      refine hargs.bind fun os hos => .bind (.placed fun fault hfault => ?_) fun _ _ => .succeed _
      -- the function is given one operand for each argument, as many as preparation has counted
      have hlength := length_of_evaluateArgs (Outcome.unlocated_eq_ok.mpr hos)
      exact explains_self (e := .call pos function args)
        (Builtin.call_isOrdinary (hlength ▸ harity) fault hfault)
    | unary pos op operand =>
      rw [Expr.evaluate]
      exact (hchild operand (.head _)).bind fun o _ =>
        operation_failsOnly (.unary pos op operand) (op.apply_isOrdinary o) _
    | binary pos op left right =>
      rw [Expr.evaluate]
      exact twoOperands_failsOnly hchild fun a b =>
        operation_failsOnly (.binary pos op left right) (op.apply_isOrdinary a b) _
    | logical pos op left right =>
      -- a side that is no truth value is reported at its own place, not at the operator's
      have hside : ∀ side ∈ [left, right], ∀ o : Operand,
          (o.asCondition side.position).FailsOnly (Expr.Explains (.logical pos op left right)) :=
        fun side hside o => .placed_except fun fault hfault =>
          explains_at_child (e := .logical pos op left right) hside
            (o.toBoolean_isOrdinary fault hfault)
      rw [Expr.evaluate]
      refine (hchild left (.head _)).bind fun a _ =>
        (hside left (.head _) a).bind fun first _ => ?_
      split
      · exact .succeed _
      · exact .succeed _
      · exact (hchild right (.tail _ (.head _))).bind fun b _ =>
          (hside right (.tail _ (.head _)) b).bind fun _ _ => .succeed _
    | comparison pos op left right =>
      rw [Expr.evaluate]
      exact twoOperands_failsOnly hchild fun a b =>
        operation_failsOnly (.comparison pos op left right) (op.apply_isOrdinary a b) _
    | pattern pos subject pattern =>
      rw [Expr.evaluate]
      exact twoOperands_failsOnly hchild fun a b =>
        operation_failsOnly (.pattern pos subject pattern) (config.isMatch_isOrdinary a b) _
    | barePattern pos pattern => exact hnode.elim

theorem condition_failsOnly {e : Expr} (hprepared : ∀ x ∈ e.nodes, Expr.IsPrepared x) :
    (e.condition config record).FailsOnly e.Explains :=
  (evaluate_failsOnly hprepared).bind fun o _ => .placed_except fun fault hfault =>
    explains_self (o.toBoolean_isOrdinary fault hfault)

end Expr

/-! ### Steps -/

mutual

/-- The steps inside a step at every depth, and the step itself. -/
def Step.nested : Step → List Step
  | .rule arms otherwise => .rule arms otherwise :: (armsNested arms ++
    match otherwise with
    | some body => stepsNested body
    | none => [])
  | step => [step]

/-- The steps in the bodies of arms at every depth. -/
def armsNested : List Arm → List Step
  | [] => []
  | .mk _ body :: arms => stepsNested body ++ armsNested arms

/-- The steps of a list at every depth. -/
def stepsNested : List Step → List Step
  | [] => []
  | step :: steps => step.nested ++ stepsNested steps

end

theorem armsNested_eq (arms : List Arm) :
    armsNested arms = arms.flatMap fun a => stepsNested a.body := by
  induction arms with
  | nil => rfl
  | cons a arms ih =>
    obtain ⟨condition, body⟩ := a
    rw [armsNested, ih, List.flatMap_cons]
    rfl

section Rule

variable {arms : List Arm} {otherwise : Option (List Step)}

theorem subset_nested_of_mem_arms {a : Arm} (ha : a ∈ arms) :
    stepsNested a.body ⊆ (Step.rule arms otherwise).nested := by
  intro x hx
  rw [Step.nested.eq_def]
  refine List.mem_cons_of_mem _ (List.mem_append_left _ ?_)
  rw [armsNested_eq, List.mem_flatMap]
  exact ⟨a, ha, hx⟩

end Rule

/-- The error is an ordinary fault at the place of one of the expressions or of one of the
assignments among the steps. -/
def IsExplainedBy (error : EvalError) (expressions : List Expr) (steps : List Step) : Prop :=
  error.fault.IsOrdinary ∧ ((∃ x ∈ expressions, x.position = error.position) ∨
    ∃ field value, .assign error.position field value ∈ steps)

theorem IsExplainedBy.mono {error : EvalError} {expressions expressions' : List Expr}
    {steps steps' : List Step} (h : IsExplainedBy error expressions steps)
    (hexpressions : expressions ⊆ expressions') (hsteps : steps ⊆ steps') :
    IsExplainedBy error expressions' steps' := by
  obtain ⟨hordinary, ⟨x, hx, hpos⟩ | ⟨field, value, hassign⟩⟩ := h
  · exact ⟨hordinary, .inl ⟨x, hexpressions hx, hpos⟩⟩
  · exact ⟨hordinary, .inr ⟨field, value, hsteps hassign⟩⟩

theorem Expr.Explains.isExplainedBy {e : Expr} {error : EvalError} (h : e.Explains error)
    {expressions : List Expr} (hexpressions : e.nodes ⊆ expressions) (steps : List Step) :
    IsExplainedBy error expressions steps := by
  obtain ⟨hordinary, x, hx, hpos⟩ := h
  exact ⟨hordinary, .inl ⟨x, hexpressions hx, hpos⟩⟩

namespace Execution

/-- All errors of the execution have the property. -/
def FailsOnly (P : EvalError → Prop) (x : Execution) : Prop := ∀ e, x.error? = some e → P e

variable {P : EvalError → Prop}

theorem failsOnly_idle (record : Record) : FailsOnly P (idle record) := by
  intro e h
  cases h

theorem FailsOnly.after {x : Execution} (h : x.FailsOnly P) (log : List String) :
    (x.after log).FailsOnly P := h

theorem FailsOnly.andThen {x : Execution} {next : Record → Execution} (hx : x.FailsOnly P)
    (hnext : ∀ record, (next record).FailsOnly P) : (x.andThen next).FailsOnly P := by
  intro e h
  cases herror : x.error? with
  | none =>
    simp only [Execution.andThen, herror] at h
    exact hnext _ e h
  | some e' =>
    simp only [Execution.andThen, herror] at h
    exact hx e (herror.trans h)

theorem failsOnly_ofOutcome {α : Type} {record : Record} {x : Outcome EvalError α}
    {next : α → Execution} (hx : x.FailsOnly P) (hnext : ∀ a, (next a).FailsOnly P) :
    (ofOutcome record x next).FailsOnly P := by
  intro e h
  cases hresult : x.result with
  | ok a =>
    simp only [ofOutcome, hresult] at h
    exact (hnext a).after x.log e h
  | error e' =>
    simp only [ofOutcome, hresult, Option.some.injEq] at h
    exact hx e (h ▸ hresult)

end Execution

section Steps

variable {config : Config}

/-- The steps fail only with errors that their expressions and assignments explain. -/
def StepsExplain (config : Config) (ss : List Step) : Prop :=
  ∀ record, (executeSteps config ss record).FailsOnly
    (IsExplainedBy · (Step.blockExpressions ss) (stepsNested ss))

theorem stepsExplain_of_forall {ss : List Step} (h : ∀ s ∈ ss, ∀ record,
      (Step.execute config s record).FailsOnly (IsExplainedBy · s.expressions s.nested)) :
    StepsExplain config ss := by
  induction ss with
  | nil => exact fun record => Execution.failsOnly_idle record
  | cons s ss ih =>
    obtain ⟨hs, hss⟩ := List.forall_mem_cons.mp h
    intro record
    rw [executeSteps, Step.blockExpressions, stepsNested]
    refine Execution.FailsOnly.andThen ?_ fun record' => ?_
    · exact fun e he => (hs record e he).mono (List.subset_append_left _ _)
        (List.subset_append_left _ _)
    · exact fun e he => (ih hss record' e he).mono (List.subset_append_right _ _)
        (List.subset_append_right _ _)

theorem executeArms_failsOnly {P : EvalError → Prop} {arms : List Arm}
    {otherwise : Record → Execution}
    (hcondition : ∀ a ∈ arms, ∀ record, (Expr.condition config record a.condition).FailsOnly P)
    (hbody : ∀ a ∈ arms, ∀ record, (executeSteps config a.body record).FailsOnly P)
    (hotherwise : ∀ record, (otherwise record).FailsOnly P) (record : Record) :
    (executeArms config arms otherwise record).FailsOnly P := by
  induction arms with
  | nil => exact hotherwise record
  | cons a arms ih =>
    obtain ⟨hcondition, hconditions⟩ := List.forall_mem_cons.mp hcondition
    obtain ⟨hbody, hbodies⟩ := List.forall_mem_cons.mp hbody
    obtain ⟨condition, body⟩ := a
    rw [executeArms]
    refine Execution.failsOnly_ofOutcome (hcondition record) fun holds => ?_
    cases holds with
    | true => exact hbody record
    | false => exact ih hconditions hbodies

/-- A step whose expressions are prepared fails only with errors that they or its assignments
explain. -/
theorem Step.execute_failsOnly {s : Step} (hprepared : ∀ x ∈ s.expressions, Expr.IsPrepared x)
    (record : Record) :
    (s.execute config record).FailsOnly (IsExplainedBy · s.expressions s.nested) := by
  induction s generalizing record with
  | assign pos field value =>
    have hvalue : ∀ error, Expr.Explains value error →
        IsExplainedBy error value.nodes [.assign pos field value] :=
      fun error h => h.isExplainedBy (List.Subset.refl _) _
    refine Execution.failsOnly_ofOutcome ?_ fun text => ?_
    · refine ((Expr.evaluate_failsOnly hprepared).mono hvalue).bind fun o _ =>
        .placed_except fun fault hfault => ?_
      -- the value is there and cannot be stored: only this is reported at the assignment
      exact ⟨o.fieldText_isOrdinary _ fault hfault, .inr ⟨field, value, List.mem_singleton_self _⟩⟩
    · intro e he
      cases he
  | call pos function args =>
    refine Execution.failsOnly_ofOutcome ?_ fun _ => Execution.failsOnly_idle record
    exact (Expr.evaluate_failsOnly hprepared).mono fun error h =>
      h.isExplainedBy (List.Subset.refl _) _
  | rule arms otherwise iharms ihother =>
    have hblock : ∀ {body : List Step}, (∀ s ∈ body, (∀ x ∈ s.expressions, Expr.IsPrepared x) →
          ∀ record, (s.execute config record).FailsOnly (IsExplainedBy · s.expressions s.nested)) →
        Step.blockExpressions body ⊆ (Step.rule arms otherwise).expressions →
        stepsNested body ⊆ (Step.rule arms otherwise).nested → ∀ record,
          (executeSteps config body record).FailsOnly (IsExplainedBy ·
            (Step.rule arms otherwise).expressions (Step.rule arms otherwise).nested) := by
      intro body ih hexpressions hnested record e he
      have hexplain : StepsExplain config body := stepsExplain_of_forall fun s hs =>
        ih s hs fun x hx => hprepared x (hexpressions (Step.expressions_subset_of_mem hs hx))
      exact (hexplain record e he).mono hexpressions hnested
    rw [Step.execute]
    refine executeArms_failsOnly ?_ ?_ ?_ record
    · intro a ha record
      have hsubset : a.condition.nodes ⊆ (Step.rule arms otherwise).expressions :=
        fun x hx => Step.subset_expressions_of_mem_arms ha (List.mem_append_left _ hx)
      exact (Expr.condition_failsOnly fun x hx => hprepared x (hsubset hx)).mono
        fun error h => h.isExplainedBy hsubset _
    · intro a ha
      exact hblock (iharms a ha)
        (fun x hx => Step.subset_expressions_of_mem_arms ha (List.mem_append_right _ hx))
        (subset_nested_of_mem_arms ha)
    · intro record
      cases otherwise with
      | none => exact Execution.failsOnly_idle record
      | some body =>
        exact hblock (ihother body rfl) (fun x hx => List.mem_append_right _ hx)
          (fun x hx => List.mem_cons_of_mem _ (List.mem_append_right _ hx)) record

/-- Steps whose expressions are prepared fail only with errors that they explain. -/
theorem stepsExplain_of_isPrepared {ss : List Step}
    (hprepared : ∀ x ∈ Step.blockExpressions ss, Expr.IsPrepared x) : StepsExplain config ss :=
  stepsExplain_of_forall fun _ hs => Step.execute_failsOnly fun x hx =>
    hprepared x (Step.expressions_subset_of_mem hs hx)

end Steps

end RecordScript
