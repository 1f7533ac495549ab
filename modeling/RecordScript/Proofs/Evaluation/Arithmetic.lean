import RecordScript.Pattern.PlaceEngine
import RecordScript.Proofs.Decimal.Division
import RecordScript.Proofs.Decimal.Remainder
import RecordScript.Proofs.Evaluation.Outcome

/-!
# Arithmetic of expressions

Expressions of numbers, fields, signs, sums, differences and products evaluate to exactly the value
that they have on paper, whatever their depth and the scales of their numbers. A quotient has the
value that it has on paper as long as it comes out, and a comparison with the dividend tells whether
it did. A remainder always has the value that it has on paper. Nothing is divided by a number of the
value zero, however it is written, and there is no other way for a division of numbers to fail.
-/

namespace RecordScript

variable [RegexEngine]

namespace Outcome

variable {ε α β : Type}

omit [RegexEngine] in
@[simp]
theorem succeed_bind (a : α) (f : α → Outcome ε β) : (succeed a >>= f) = f a := rfl

@[simp]
theorem placed_ok (pos : Position) (a : α) : RecordScript.placed pos (.ok a) = succeed a := rfl

end Outcome

/-! ### Operators on numbers -/

theorem Operand.resolve_number {o : Operand} {n : Decimal} (h : o.toNumber = .ok n) :
    o.resolve .number = .ok (.number n) := by
  cases o with
  | field name text =>
    rw [toNumber] at h
    split at h <;> cases h
    rename_i hparse
    rw [resolve, hparse]
  | value v =>
    cases v <;> cases h
    rfl

theorem BinaryOp.apply_eq_ok {op : BinaryOp} {compute : Decimal → Decimal → Except Fault Decimal}
    (hop : op.arithmetic? = some compute) {l r : Operand} {a b c : Decimal}
    (hl : l.toNumber = .ok a) (hr : r.toNumber = .ok b) (hc : compute a b = .ok c) :
    op.apply l r = .ok (.number c) := by
  rw [apply, hop]
  simp [hl, hr, hc, pure, Except.pure]

namespace BinaryOp

/-- An operator that is not defined at zero fails where the divisor has the value zero, and gives a
number otherwise. -/
theorem apply_byNonzero {op : BinaryOp} {f : Decimal → Decimal → Decimal}
    (hop : op.arithmetic? = some (byNonzero f)) {l r : Operand} {a b : Decimal}
    (hl : l.toNumber = .ok a) (hr : r.toNumber = .ok b) :
    op.apply l r = if b.value = 0 then .error .divisionByZero else .ok (.number (f a b)) := by
  rw [apply, hop]
  simp only [hl, hr, Result.ok_bind, byNonzero, Decimal.isZero_iff]
  split <;> rfl

/-- Of two operands that are taken as numbers, both divisions fail if and only if the second one has
the value zero, and for this reason only. The remainder is what is left of the first number when the
second one is taken off it a whole number of times; it is smaller than the second one, and it is
zero or has the sign of the first. -/
theorem apply_division_iff {l r : Operand} {a b : Decimal} (hl : l.toNumber = .ok a)
    (hr : r.toNumber = .ok b) :
    (∀ op ∈ [BinaryOp.div, BinaryOp.rem],
        (op.apply l r = .error .divisionByZero ↔ b.value = 0) ∧
          ((∃ c, op.apply l r = .ok (.number c)) ↔ b.value ≠ 0)) ∧
      (b.value ≠ 0 → ∃ c, BinaryOp.rem.apply l r = .ok (.number c) ∧
        (∃ k : ℤ, a.value - c.value = k * b.value) ∧ |c.value| < |b.value| ∧
          (c.value = 0 ∨ SignType.sign c.value = SignType.sign a.value)) := by
  refine ⟨fun op hop => ?_, fun hb => ⟨a.rem b, ?_, ?_⟩⟩
  · obtain ⟨f, hf⟩ : ∃ f, op.arithmetic? = some (byNonzero f) := by
      rcases List.mem_pair.mp hop with rfl | rfl
      · exact ⟨_, rfl⟩
      · exact ⟨_, rfl⟩
    rw [apply_byNonzero hf hl hr]
    by_cases hb : b.value = 0 <;> simp [hb]
  · rw [apply_byNonzero rfl hl hr, if_neg hb]
  · exact ⟨Decimal.exists_value_sub_value_rem a b, Decimal.abs_value_rem_lt hb,
      or_iff_not_imp_left.mpr Decimal.sign_value_rem⟩

end BinaryOp

end RecordScript

namespace RecordScript.BinaryOp

/-- Seven and a half below zero leaves one and a half below zero when it is divided by two, and is
not divided by a zero with an exponent. -/
theorem apply_division_iff_fields :
    BinaryOp.div.apply (.field "x" " -7.5 ") (.field "y" "0e7") = .error .divisionByZero ∧
      ∃ c, BinaryOp.rem.apply (.field "x" " -7.5 ") (.value (.number ⟨200, 2⟩)) = .ok (.number c) ∧
        |c.value| < |(⟨200, 2⟩ : Decimal).value| ∧
        (c.value = 0 ∨ SignType.sign c.value = SignType.sign (⟨-75, 1⟩ : Decimal).value) := by
  have hx : (Operand.field "x" " -7.5 ").toNumber = .ok ⟨-75, 1⟩ := by decide +kernel
  have hy : (Operand.field "y" "0e7").toNumber = .ok ⟨0, -7⟩ := by decide +kernel
  have htwo : (⟨200, 2⟩ : Decimal).value ≠ 0 := mt Decimal.value_eq_zero_iff.mp (by decide)
  have hzero := ((apply_division_iff hx hy).1 .div (by decide)).1
  obtain ⟨c, hc, -, habs, hsign⟩ :=
    (apply_division_iff hx (r := .value (.number ⟨200, 2⟩)) rfl).2 htwo
  exact ⟨hzero.mpr (Decimal.value_eq_zero_iff.mpr rfl), c, hc, habs, hsign⟩

end RecordScript.BinaryOp

namespace RecordScript

variable [RegexEngine]

/-- A number is compared by value with what can be taken as a number. -/
theorem CompareOp.apply_number (op : CompareOp) (n : Decimal) {o : Operand} {m : Decimal}
    (h : o.toNumber = .ok m) :
    op.apply (.value (.number n)) o = .ok (op.holds (n.compare m)) := by
  have htype : op.commonType (.value (.number n)) o = .ok .number := by
    cases o with
    | field name text => rfl
    | value v =>
      cases v <;> cases h
      rfl
  have hself : (Operand.value (.number n)).resolve .number = .ok (.number n) :=
    Operand.resolve_number rfl
  rw [apply, htype, Result.ok_bind, hself, Result.ok_bind, Operand.resolve_number h]
  rfl

/-! ### Exact values -/

namespace Expr

/-- The value that an expression without division has on paper. -/
inductive HasValue (record : Record) : Expr → ℚ → Prop where
  | literal {pos : Position} {n : Decimal} : HasValue record (.literal pos (.number n)) n.value
  | field {pos : Position} {name : String} {n : Decimal}
    (h : Decimal.parse (record.get name) = some n) : HasValue record (.field pos name) n.value
  | plus {pos : Position} {e : Expr} {q : ℚ} (h : HasValue record e q) :
    HasValue record (.unary pos .plus e) q
  | minus {pos : Position} {e : Expr} {q : ℚ} (h : HasValue record e q) :
    HasValue record (.unary pos .minus e) (-q)
  | add {pos : Position} {left right : Expr} {q r : ℚ} (hleft : HasValue record left q)
    (hright : HasValue record right r) : HasValue record (.binary pos .add left right) (q + r)
  | sub {pos : Position} {left right : Expr} {q r : ℚ} (hleft : HasValue record left q)
    (hright : HasValue record right r) : HasValue record (.binary pos .sub left right) (q - r)
  | mul {pos : Position} {left right : Expr} {q r : ℚ} (hleft : HasValue record left q)
    (hright : HasValue record right r) : HasValue record (.binary pos .mul left right) (q * r)

/-- The expression is a field and nothing else. -/
def IsField : Expr → Prop
  | .field _ _ => True
  | _ => False

/-- The outcome is a number of the given value; only a field alone still is the field, with a text
that is read as such a number. -/
def GivesValue (e : Expr) (x : Outcome EvalError Operand) (q : ℚ) : Prop :=
  ∃ o n, x = .succeed o ∧ o.toNumber = .ok n ∧ n.value = q ∧
    (¬ e.IsField → o = .value (.number n))

section Evaluate

variable {config : Config} {record : Record} {q r : ℚ} {left right e : Expr}

theorem GivesValue.of_number {n : Decimal} {x : Outcome EvalError Operand}
    (hx : x = .succeed (.value (.number n))) (hn : n.value = q) : GivesValue e x q :=
  ⟨.value (.number n), n, hx, rfl, hn, fun _ => rfl⟩

/-- A sign in front of an expression with a value. -/
theorem GivesValue.unary (pos : Position) {op : UnaryOp} {f : Decimal → Decimal}
    (hop : ∀ o n, o.toNumber = .ok n → op.apply o = .ok (.number (f n)))
    (h : GivesValue e (e.evaluate config record) q)
    (hf : ∀ n : Decimal, n.value = q → (f n).value = r) :
    GivesValue (.unary pos op e) (Expr.evaluate config record (.unary pos op e)) r := by
  obtain ⟨o, n, heval, ho, hn, -⟩ := h
  refine .of_number ?_ (hf n hn)
  rw [Expr.evaluate, heval]
  simp only [Outcome.succeed_bind, hop o n ho, Outcome.placed_ok]
  rfl

/-- An operator that always succeeds between expressions with values. -/
theorem GivesValue.binary (pos : Position) {op : BinaryOp} {f : Decimal → Decimal → Decimal} {s : ℚ}
    (hop : op.arithmetic? = some fun a b => .ok (f a b))
    (hleft : GivesValue left (left.evaluate config record) q)
    (hright : GivesValue right (right.evaluate config record) r)
    (hf : ∀ a b : Decimal, a.value = q → b.value = r → (f a b).value = s) :
    GivesValue (.binary pos op left right)
      (Expr.evaluate config record (.binary pos op left right)) s := by
  obtain ⟨l, a, hevalLeft, hl, ha, -⟩ := hleft
  obtain ⟨o, b, hevalRight, ho, hb, -⟩ := hright
  refine .of_number ?_ (hf a b ha hb)
  rw [Expr.evaluate, hevalLeft, hevalRight]
  simp only [Outcome.succeed_bind, BinaryOp.apply_eq_ok hop hl ho rfl, Outcome.placed_ok]
  rfl

/-- An expression without division evaluates to the value that it has on paper. -/
theorem HasValue.givesValue (h : HasValue record e q) (config : Config) :
    GivesValue e (e.evaluate config record) q := by
  induction h with
  | literal => exact .of_number rfl rfl
  | @field pos name n h =>
    refine ⟨.field name (record.get name), n, rfl, ?_, rfl, fun hfield => absurd trivial hfield⟩
    rw [Operand.toNumber, h]
  | plus _ ih =>
    refine ih.unary _ (f := id) (fun o n ho => ?_) fun n hn => hn
    rw [UnaryOp.apply, ho]
    rfl
  | minus _ ih =>
    refine ih.unary _ (f := Decimal.neg) (fun o n ho => ?_) fun n hn => ?_
    · rw [UnaryOp.apply, ho]
      rfl
    · rw [Decimal.value_neg, hn]
  | add _ _ ihl ihr =>
    exact ihl.binary _ rfl ihr fun a b ha hb => by rw [Decimal.value_add, ha, hb]
  | sub _ _ ihl ihr =>
    exact ihl.binary _ rfl ihr fun a b ha hb => by rw [Decimal.value_sub, ha, hb]
  | mul _ _ ihl ihr =>
    exact ihl.binary _ rfl ihr fun a b ha hb => by rw [Decimal.value_mul, ha, hb]

/-! ### Quotients -/

/-- The comparison that multiplies a quotient by its divisor and asks whether the dividend is back.
-/
def quotientCheck (pos : Position) (left right : Expr) : Expr :=
  .comparison pos .eq (.binary pos .mul (.binary pos .div left right) right) left

section Quotient

variable {l o : Operand} {a b : Decimal}

theorem result_quotient (hleft : (left.evaluate config record).result = .ok l)
    (hl : l.toNumber = .ok a) (hright : (right.evaluate config record).result = .ok o)
    (ho : o.toNumber = .ok b) (hb : b.isZero = false) (pos : Position) :
    (Expr.evaluate config record (.binary pos .div left right)).result =
      .ok (.value (.number (a.div b))) := by
  have hdiv : BinaryOp.div.apply l o = .ok (.number (a.div b)) :=
    BinaryOp.apply_eq_ok rfl hl ho (by simp [BinaryOp.byNonzero, hb])
  rw [Expr.evaluate]
  simp [hleft, hright, hdiv]

theorem result_quotientCheck (hleft : (left.evaluate config record).result = .ok l)
    (hl : l.toNumber = .ok a) (hright : (right.evaluate config record).result = .ok o)
    (ho : o.toNumber = .ok b) (hb : b.isZero = false) (pos : Position) :
    (Expr.evaluate config record (quotientCheck pos left right)).result =
      .ok (.value (.boolean (CompareOp.eq.holds (((a.div b).mul b).compare a)))) := by
  have hquotient := result_quotient hleft hl hright ho hb pos
  have hmul : BinaryOp.mul.apply (.value (.number (a.div b))) o =
      .ok (.number ((a.div b).mul b)) := BinaryOp.apply_eq_ok rfl rfl ho rfl
  have hcompare := CompareOp.eq.apply_number ((a.div b).mul b) hl
  rw [quotientCheck, Expr.evaluate, Expr.evaluate]
  simp [hquotient, hleft, hright, hmul, hcompare]

/-- A quotient of numbers is exact precisely where it comes out, and only then is the dividend back
when the quotient is multiplied by the divisor. -/
theorem evaluate_quotient
    (hleft : (left.evaluate config record).result = .ok l) (hl : l.toNumber = .ok a)
    (hright : (right.evaluate config record).result = .ok o) (ho : o.toNumber = .ok b)
    (hb : b.value ≠ 0) (pos : Position) :
    (∃ c, (Expr.evaluate config record (.binary pos .div left right)).result =
        .ok (.value (.number c)) ∧ (c.value = a.value / b.value ↔ a.QuotientComesOut b)) ∧
      ∃ back, (Expr.evaluate config record (quotientCheck pos left right)).result =
        .ok (.value (.boolean back)) ∧ (back = true ↔ a.QuotientComesOut b) := by
  have hzero : b.isZero = false := by
    rw [← Bool.not_eq_true, Decimal.isZero_iff]
    exact hb
  have hexact := Decimal.value_div_eq_iff (a := a) hb
  refine ⟨⟨a.div b, result_quotient hleft hl hright ho hzero pos, hexact⟩, ?_⟩
  refine ⟨_, result_quotientCheck hleft hl hright ho hzero pos, ?_⟩
  -- The dividend is back exactly if the quotient has the value that it should have.
  rw [← hexact, eq_div_iff hb, ← Decimal.value_mul, ← Decimal.compare_eq_eq_iff]
  simp [CompareOp.holds]

end Quotient

end Evaluate

end Expr

end RecordScript

namespace RecordScript.Expr

/-- An eighth comes out. -/
theorem evaluate_quotient_eighth :
    (⟨8, 0⟩ : Decimal).value ≠ 0 ∧
      (∃ c, (Expr.evaluate {} (.ofList [("x", " 1.0 ")])
          (.binary default .div (.field default "x") (.literal default (.number ⟨8, 0⟩)))).result =
            .ok (.value (.number c)) ∧
        c.value = (⟨10, 1⟩ : Decimal).value / (⟨8, 0⟩ : Decimal).value) ∧
      (Expr.evaluate {} (.ofList [("x", " 1.0 ")])
        (quotientCheck default (.field default "x") (.literal default (.number ⟨8, 0⟩)))).result =
          .ok (.value (.boolean true)) := by
  have hb : (⟨8, 0⟩ : Decimal).value ≠ 0 := mt Decimal.value_eq_zero_iff.mp (by decide)
  have hout : (⟨10, 1⟩ : Decimal).QuotientComesOut ⟨8, 0⟩ :=
    .inr (.inr ⟨125, -3, by decide, by norm_num [Decimal.value]⟩)
  have hleft : (Expr.evaluate {} (.ofList [("x", " 1.0 ")]) (.field default "x")).result =
      .ok (.field "x" " 1.0 ") := rfl
  have hright : (Expr.evaluate {} (.ofList [("x", " 1.0 ")])
      (.literal default (.number ⟨8, 0⟩))).result = .ok (.value (.number ⟨8, 0⟩)) := rfl
  have hfield : (Operand.field "x" " 1.0 ").toNumber = .ok ⟨10, 1⟩ := by decide +kernel
  obtain ⟨⟨c, hc, hexact⟩, back, hback, htrue⟩ :=
    evaluate_quotient hleft hfield hright rfl hb default
  exact ⟨hb, ⟨c, hc, hexact.mpr hout⟩, htrue.mpr hout ▸ hback⟩

/-- The quotient of one and a power of two has an end, but with one digit too many it is cut off. -/
theorem evaluate_quotientCheck_power :
    (Expr.evaluate {} .empty (quotientCheck default (.literal default (.number ⟨1, 0⟩))
        (.literal default (.number ⟨2 ^ 144, 0⟩)))).result = .ok (.value (.boolean false)) ∧
      (⟨1, 0⟩ : Decimal).value / (⟨2 ^ 144, 0⟩ : Decimal).value =
        (5 ^ 144 : Int) * (10 : ℚ) ^ (-144 : Int) := by
  refine ⟨?_, by norm_num [Decimal.value]⟩
  have hback : CompareOp.eq.holds
      ((((⟨1, 0⟩ : Decimal).div ⟨2 ^ 144, 0⟩).mul ⟨2 ^ 144, 0⟩).compare ⟨1, 0⟩) = false := by
    decide +kernel
  rw [result_quotientCheck rfl rfl rfl rfl (by decide) default, hback]

end RecordScript.Expr
