import RecordScript.Proofs.Decimal.Reading
import RecordScript.Proofs.Evaluation.Outcome

/-!
# Fields as numbers

A field is taken as a number where an operator or a function asks for one. The text of the field has
to be read as a decimal there; if it is not, the operation fails with the name of the field and its
text.
-/

namespace RecordScript

variable [RegexEngine]

/-- The expression takes a field as a number, and a failure to do so is placed at `pos`: the field
stands directly behind a sign, on a side of an arithmetic operator, beside a number in a comparison,
or as an argument that has to be a number. What is looked at before the field gives no error. -/
inductive TakesAsNumber (config : Config) (record : Record) (name : String) :
    Expr → Position → Prop where
  | signed {pos p : Position} {op : UnaryOp} (hop : op ≠ .not) :
    TakesAsNumber config record name (.unary pos op (.field p name)) pos
  | left {pos p : Position} {op : BinaryOp} {right : Expr} {o : Operand} (hop : op ≠ .concat)
    (hright : (right.evaluate config record).result = .ok o) :
    TakesAsNumber config record name (.binary pos op (.field p name) right) pos
  | right {pos p : Position} {op : BinaryOp} {left : Expr} {o : Operand} {n : Decimal}
    (hop : op ≠ .concat) (hleft : (left.evaluate config record).result = .ok o)
    (hnumber : o.toNumber = .ok n) :
    TakesAsNumber config record name (.binary pos op left (.field p name)) pos
  | before {pos p : Position} {op : CompareOp} {right : Expr} {n : Decimal}
    (hright : (right.evaluate config record).result = .ok (.value (.number n))) :
    TakesAsNumber config record name (.comparison pos op (.field p name) right) pos
  | behind {pos p : Position} {op : CompareOp} {left : Expr} {n : Decimal}
    (hleft : (left.evaluate config record).result = .ok (.value (.number n))) :
    TakesAsNumber config record name (.comparison pos op left (.field p name)) pos
  | argument {pos p : Position} {function : String} {f : Builtin} {front behind : List Expr}
    {os : List Operand} (hf : Builtin.ofName? function = some f)
    (hparam : f.param front.length = .number)
    (hfront : (evaluateArgs config record f 0 front).result = .ok os) :
    TakesAsNumber config record name (.call pos function (front ++ .field p name :: behind)) p

/-! ### Operators on what is no number -/

theorem UnaryOp.apply_eq_error {op : UnaryOp} (hop : op ≠ .not) {o : Operand} {fault : Fault}
    (h : o.toNumber = .error fault) : op.apply o = .error fault := by
  cases op with
  | not => exact absurd rfl hop
  | plus | minus =>
    rw [apply, h]
    rfl

theorem BinaryOp.apply_eq_error_left {op : BinaryOp} (hop : op ≠ .concat) {left : Operand}
    {fault : Fault} (h : left.toNumber = .error fault) (right : Operand) :
    op.apply left right = .error fault := by
  cases op with
  | concat => exact absurd rfl hop
  | _ =>
    rw [apply]
    simp [arithmetic?, h]

theorem BinaryOp.apply_eq_error_right {op : BinaryOp} (hop : op ≠ .concat) {left right : Operand}
    {n : Decimal} {fault : Fault} (hleft : left.toNumber = .ok n)
    (h : right.toNumber = .error fault) : op.apply left right = .error fault := by
  cases op with
  | concat => exact absurd rfl hop
  | _ =>
    rw [apply]
    simp [arithmetic?, hleft, h]

section Field

variable {name text : String}

theorem Operand.toNumber_field_of_parse_eq_none (h : Decimal.parse text = none) :
    (field name text).toNumber = .error (.cast (some name) text .number) := by
  rw [toNumber, h]

theorem Operand.resolve_field_of_parse_eq_none (h : Decimal.parse text = none) :
    (field name text).resolve .number = .error (.cast (some name) text .number) := by
  rw [resolve, h]

/-- Beside a number a field is compared as a number, whichever side it is on. -/
theorem CompareOp.apply_field_of_parse_eq_none (h : Decimal.parse text = none) (op : CompareOp)
    (n : Decimal) :
    op.apply (.field name text) (.value (.number n)) =
        .error (.cast (some name) text .number) ∧
      op.apply (.value (.number n)) (.field name text) =
        .error (.cast (some name) text .number) := by
  have hresolve : (Operand.field name text).resolve .number =
      .error (.cast (some name) text .number) := Operand.resolve_field_of_parse_eq_none h
  constructor
  · have htype : op.commonType (.field name text) (.value (.number n)) = .ok .number := rfl
    rw [apply, htype, Result.ok_bind, hresolve, Result.error_bind]
  · have htype : op.commonType (.value (.number n)) (.field name text) = .ok .number := rfl
    have hnumber : (Operand.value (.number n)).resolve .number = .ok (.number n) := rfl
    rw [apply, htype, Result.ok_bind, hnumber, Result.ok_bind, hresolve, Result.error_bind]

end Field

/-! ### Evaluation -/

section Cast

variable {config : Config} {record : Record} {name : String}

/-- Arguments are evaluated one after the other. -/
theorem evaluateArgs_append (f : Builtin) (index : Nat) (front args : List Expr) :
    evaluateArgs config record f index (front ++ args) =
      evaluateArgs config record f index front >>= fun os =>
        evaluateArgs config record f (index + front.length) args >>= fun os' =>
          pure (os ++ os') := by
  induction front generalizing index with
  | nil =>
    rw [evaluateArgs]
    exact (Outcome.bind_pure_eq _).symm
  | cons arg front ih =>
    rw [List.cons_append, evaluateArgs, evaluateArgs, ih, List.length_cons, Nat.add_assoc,
      Nat.add_comm 1]
    simp only [Outcome.bind_bind, Outcome.pure_bind_eq]
    rfl

/-- The first argument that is not accepted ends the evaluation of all. -/
theorem result_evaluateArgs_append {f : Builtin} {front : List Expr} {arg : Expr}
    {os : List Operand} {o : Operand} {fault : Fault} (index : Nat)
    (hfront : (evaluateArgs config record f index front).result = .ok os)
    (harg : (arg.evaluate config record).result = .ok o)
    (hfault : (f.param (index + front.length)).accept o = .error fault) (behind : List Expr) :
    (evaluateArgs config record f index (front ++ arg :: behind)).result =
      .error ⟨fault, arg.position⟩ := by
  rw [evaluateArgs_append, evaluateArgs]
  simp [hfront, harg, hfault]

/-- A field whose text is not read as a decimal fails wherever it is taken as a number. -/
theorem evaluate_of_takesAsNumber {e : Expr} {pos : Position}
    (h : TakesAsNumber config record name e pos) (htext : Decimal.parse (record.get name) = none) :
    (e.evaluate config record).result =
      .error ⟨.cast (some name) (record.get name) .number, pos⟩ := by
  have hnumber : (Operand.field name (record.get name)).toNumber =
      .error (.cast (some name) (record.get name) .number) :=
    Operand.toNumber_field_of_parse_eq_none htext
  cases h with
  | signed hop =>
    simp [Expr.evaluate, UnaryOp.apply_eq_error hop hnumber]
  | left hop hright =>
    simp [Expr.evaluate, hright, BinaryOp.apply_eq_error_left hop hnumber]
  | right hop hleft hn =>
    simp [Expr.evaluate, hleft, BinaryOp.apply_eq_error_right hop hn hnumber]
  | before hright =>
    simp [Expr.evaluate, hright, CompareOp.apply_field_of_parse_eq_none htext]
  | behind hleft =>
    simp [Expr.evaluate, hleft, CompareOp.apply_field_of_parse_eq_none htext]
  | @argument _ p function f front behind os hf hparam hfront =>
    have hfield : (Expr.evaluate config record (.field pos name)).result =
        .ok (.field name (record.get name)) := rfl
    have haccept : (f.param (0 + front.length)).accept (.field name (record.get name)) =
        .error (.cast (some name) (record.get name) .number) := by
      rw [Nat.zero_add, hparam, ParamType.accept, Operand.resolve_field_of_parse_eq_none htext]
      rfl
    have hargs := result_evaluateArgs_append 0 hfront hfield haccept behind
    simp [Expr.evaluate, hf, hargs, ExprOf.position]

end Cast

namespace Decimal

/-- Among the texts without underscores and without a sign behind a leading point, the texts that
are read are the numerals whose scale is within the limit, and a numeral is read as exactly its
value. What else is read is a numeral with underscores among its digits or with a point in front of
its sign. Where a text is not read, every use of a field with this text as a number fails. -/
theorem parse_numerals (text : String) :
    ((∃ a, parse text = some a) ∧ IsPlainText (Text.trim text).toList ↔
      ∃ n : Numeral, n.chars = (Text.trim text).toList ∧ n.scale.natAbs ≤ scaleLimit) ∧
    (∀ n : Numeral, n.chars = (Text.trim text).toList → n.scale.natAbs ≤ scaleLimit →
      ∃ a, parse text = some a ∧ a.value = n.value ∧ a.scale = n.scale) ∧
    (∀ a, parse text = some a ↔
      a.IsSpelledBy (Text.trim text).toList ∧ a.scale.natAbs ≤ scaleLimit) ∧
    (parse text = none → ∀ config record name e pos, record.get name = text →
      TakesAsNumber config record name e pos →
      (e.evaluate config record).result = .error ⟨.cast (some name) text .number, pos⟩) := by
  refine ⟨⟨?_, ?_⟩, ?_, fun a => parse_eq_some_iff, ?_⟩
  · rintro ⟨⟨a, ha⟩, hplain⟩
    obtain ⟨hspelled, hscale⟩ := parse_eq_some_iff.mp ha
    obtain ⟨n, hn, rfl⟩ := (isSpelledBy_iff_of_isPlainText hplain).mp hspelled
    exact ⟨n, hn, hscale⟩
  · rintro ⟨n, hn, hscale⟩
    exact ⟨⟨n.decimal, by rw [parse_of_chars hn, if_pos hscale]⟩, hn ▸ isPlainText_chars n⟩
  · intro n hn hscale
    exact ⟨n.decimal, by rw [parse_of_chars hn, if_pos hscale], n.value_decimal, rfl⟩
  · rintro hnone config record name e pos rfl h
    exact evaluate_of_takesAsNumber h hnone

omit [RegexEngine] in
/-- A sign behind a leading point is read, and counted as a place; underscores are read over. -/
theorem exists_parse_of_no_numeral :
    (parse ".+5" = some ⟨5, 2⟩ ∧ ¬ ∃ n : Numeral, n.chars = (Text.trim ".+5").toList) ∧
      parse "1_000" = some ⟨1000, 0⟩ ∧ ¬ ∃ n : Numeral, n.chars = (Text.trim "1_000").toList := by
  refine ⟨⟨by decide +kernel, ?_⟩, by decide +kernel, ?_⟩
  · rintro ⟨n, hn⟩
    have h : n.chars = '.' :: '+' :: ['5'] := hn.trans (by decide +kernel)
    exact ((isPlainText_chars n).2 _).1 h
  · rintro ⟨n, hn⟩
    have h : n.chars = ['1', '_', '0', '0', '0'] := hn.trans (by decide +kernel)
    exact (isPlainText_chars n).1 (by simp [h])

end Decimal

end RecordScript
