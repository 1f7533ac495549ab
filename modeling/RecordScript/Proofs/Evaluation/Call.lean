import RecordScript.Proofs.Evaluation.Arithmetic

/-!
# Calls

A call gives what its function makes of the arguments, once they have been evaluated and taken as
its parameters ask. A fault of the function is placed where the call stands.
-/

namespace RecordScript

variable [RegexEngine]

/-- An operand that can be read as a text is the text to a parameter for texts. -/
theorem ParamType.accept_string {o : Operand} {s : String} (h : o.toText = .ok s) :
    string.accept o = .ok (.value (.string s)) := by
  cases o with
  | field name text =>
    cases h
    rfl
  | value v =>
    cases v <;> cases h
    rfl

/-- An operand that can be read as a number is the number to a parameter for numbers. -/
theorem ParamType.accept_number {o : Operand} {n : Decimal} (h : o.toNumber = .ok n) :
    number.accept o = .ok (.value (.number n)) := by
  rw [accept, Operand.resolve_number h]
  rfl

namespace Expr

variable {config : Config} {record : Record}

/-- The expression evaluates to what can be read as the text. -/
def GivesText (config : Config) (record : Record) (e : Expr) (s : String) : Prop :=
  ∃ o, (e.evaluate config record).result = .ok o ∧ o.toText = .ok s

/-- The expression evaluates to what can be read as the number. -/
def GivesNumber (config : Config) (record : Record) (e : Expr) (n : Decimal) : Prop :=
  ∃ o, (e.evaluate config record).result = .ok o ∧ o.toNumber = .ok n

/-- A literal text gives the text. -/
theorem givesText_literal (pos : Position) (s : String) :
    GivesText config record (.literal pos (.string s)) s :=
  ⟨.value (.string s), rfl, rfl⟩

/-- A literal number gives the number. -/
theorem givesNumber_literal (pos : Position) (n : Decimal) :
    GivesNumber config record (.literal pos (.number n)) n :=
  ⟨.value (.number n), rfl, rfl⟩

/-- A field gives its text. -/
theorem givesText_field (pos : Position) (name : String) :
    GivesText config record (.field pos name) (record.get name) :=
  ⟨.field name (record.get name), rfl, rfl⟩

section Arguments

variable {f : Builtin} {index : Nat} {arg : Expr} {args : List Expr} {o o' : Operand}
  {os : List Operand}

theorem result_evaluateArgs_nil : (evaluateArgs config record f index []).result = .ok [] := rfl

/-- An argument that its parameter takes, in front of others. -/
theorem result_evaluateArgs_cons (heval : (arg.evaluate config record).result = .ok o)
    (haccept : (f.param index).accept o = .ok o')
    (hrest : (evaluateArgs config record f (index + 1) args).result = .ok os) :
    (evaluateArgs config record f index (arg :: args)).result = .ok (o' :: os) := by
  have hcons : evaluateArgs config record f index (arg :: args) = (do
      let operand ← arg.evaluate config record
      let operand ← placed arg.position ((f.param index).accept operand)
      let operands ← evaluateArgs config record f (index + 1) args
      return operand :: operands) := rfl
  rw [hcons]
  simp [heval, haccept, hrest]

/-- An argument for a parameter for texts, in front of others. -/
theorem GivesText.result_evaluateArgs_cons {s : String} (h : arg.GivesText config record s)
    (hparam : f.param index = .string)
    (hrest : (evaluateArgs config record f (index + 1) args).result = .ok os) :
    (evaluateArgs config record f index (arg :: args)).result =
      .ok (.value (.string s) :: os) := by
  obtain ⟨o, heval, ho⟩ := h
  exact Expr.result_evaluateArgs_cons heval (hparam ▸ ParamType.accept_string ho) hrest

/-- An argument for a parameter for numbers, in front of others. -/
theorem GivesNumber.result_evaluateArgs_cons {n : Decimal} (h : arg.GivesNumber config record n)
    (hparam : f.param index = .number)
    (hrest : (evaluateArgs config record f (index + 1) args).result = .ok os) :
    (evaluateArgs config record f index (arg :: args)).result =
      .ok (.value (.number n) :: os) := by
  obtain ⟨o, heval, ho⟩ := h
  exact Expr.result_evaluateArgs_cons heval (hparam ▸ ParamType.accept_number ho) hrest

/-- A call of a function by its name, with arguments that it takes. -/
theorem result_call {function : String} (hf : Builtin.ofName? function = some f)
    (hargs : (evaluateArgs config record f 0 args).result = .ok os) (pos : Position) :
    (Expr.evaluate config record (.call pos function args)).result =
      ((f.call config record os).result.mapError (⟨·, pos⟩)).map .value := by
  rw [Expr.evaluate, hf]
  simp only [Outcome.result_bind, hargs, Result.ok_bind, Outcome.placed, Outcome.mapError,
    Outcome.result_pure]
  cases (f.call config record os).result <;> rfl

end Arguments

end Expr

end RecordScript
