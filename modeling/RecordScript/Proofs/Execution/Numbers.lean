import RecordScript.Pattern.PlaceEngine
import RecordScript.Proofs.Decimal.Positional
import RecordScript.Proofs.Evaluation.Arithmetic
import RecordScript.Proofs.Execution.Writes

/-!
# Numbers in fields

A number is stored in positional notation and is the same number when its field is used again, as
long as its scale is within the limit. So nothing is lost between two assignments, and arithmetic
without division is exact from the fields that are read to the text that is stored.
-/

namespace RecordScript

variable [RegexEngine]

/-- An assignment that has a text to write writes it and does nothing else. -/
theorem Step.execute_assign {config : Config} {record : Record} {e : Expr} {o : Operand}
    {name text : String} (pos : Position) (he : (e.evaluate config record).result = .ok o)
    (htext : o.fieldText (some name) = .ok text) :
    ((Step.assign pos name e).execute config record).record = record.set name text ∧
      ((Step.assign pos name e).execute config record).writes = [(name, text)] ∧
      ((Step.assign pos name e).execute config record).error? = none := by
  have hresult : (do
      let operand ← e.evaluate config record
      placed pos (operand.fieldText (some name)) : Outcome EvalError String).result = .ok text := by
    rw [Outcome.result_bind, he, Result.ok_bind, Outcome.result_placed, htext, Result.mapError_ok]
  rw [Step.execute, Execution.ofOutcome, hresult]
  exact ⟨rfl, rfl, rfl⟩

namespace Decimal

open Numeral

/-- A number that is written and read again keeps its digits and its scale, a negative scale becomes
zero, and a scale beyond the limit is refused; a text that is a plain numeral is written as it was
read. A number that is assigned to a field is the same number when the field is used. -/
theorem parse_format :
    (∀ a : Decimal, (0 ≤ a.scale → a.scale ≤ scaleLimit → parse a.format = some a) ∧
      (a.scale < 0 → ∃ b, parse a.format = some b ∧ b.scale = 0 ∧ b.value = a.value) ∧
      (scaleLimit < a.scale → parse a.format = none)) ∧
    (∀ (text : String) (n : Numeral), n.IsPlain → n.places.length ≤ scaleLimit →
      text.toList = n.chars → ∃ b, parse text = some b ∧ b.format = text) ∧
    ∀ (config : Config) (record : Record) (e : Expr) (a : Decimal) (pos : Position) (name : String),
      (e.evaluate config record).result = .ok (.value (.number a)) → a.scale ≤ scaleLimit →
      ((Step.assign pos name e).execute config record).error? = none ∧
      ∃ b, (Operand.field name
          (((Step.assign pos name e).execute config record).record.get name)).toNumber = .ok b ∧
        b.value = a.value ∧ (0 ≤ a.scale → b = a) := by
  refine ⟨fun a => ⟨fun hscale hlimit => ?_, fun hscale => ?_, fun hlimit => ?_⟩, ?_, ?_⟩
  · rw [parse_format_eq, if_pos hlimit, positional_of_nonneg hscale]
  · have hlimit : a.scale ≤ scaleLimit := by omega
    refine ⟨a.positional, by rw [parse_format_eq, if_pos hlimit], ?_, a.value_positional⟩
    exact max_eq_right hscale.le
  · rw [parse_format_eq, if_neg (by omega)]
  · intro text n hplain hplaces htext
    have hscale : n.scale = n.places.length := hplain.scale_decimal
    refine ⟨n.decimal, ?_, ?_⟩
    · rw [parse_of_toList htext, if_pos (by omega)]
    · rw [← String.toList_inj, hplain.chars_decimal, htext]
  · intro config record e a pos name he hlimit
    obtain ⟨hrecord, -, herror⟩ := Step.execute_assign pos he (o := .value (.number a)) rfl
    refine ⟨herror, a.positional, ?_, a.value_positional, positional_of_nonneg⟩
    rw [hrecord, Record.get_set, if_pos rfl, Operand.toNumber, parse_format_eq, if_pos hlimit]

end Decimal

namespace Expr

/-- An expression without division that is not a field alone evaluates to a number of exactly the
value that it has on paper, and stores a positional text that denotes exactly this value. A field
alone denotes the value as well, but it stays a field, and its text is stored as it stands. -/
theorem evaluate_hasValue {config : Config} {record : Record} {e : Expr} {q : ℚ}
    (h : HasValue record e q) :
    (¬ e.IsField → ∃ n, e.evaluate config record = .succeed (.value (.number n)) ∧ n.value = q ∧
      (∃ m : Numeral, m.chars = n.format.toList ∧ m.IsPositional ∧ m.value = q) ∧
      ∀ pos name, (Step.assign pos name e).execute config record = .write record name n.format) ∧
    (e.IsField → ∃ source text n, e.evaluate config record = .succeed (.field source text) ∧
      text = record.get source ∧ Decimal.parse text = some n ∧ n.value = q ∧
      ∀ pos name, (Step.assign pos name e).execute config record = .write record name text) := by
  constructor
  · intro hfield
    obtain ⟨o, n, heval, -, hn, hnumber⟩ := h.givesValue config
    obtain rfl := hnumber hfield
    refine ⟨n, heval, hn, ⟨n.toNumeral, n.chars_toNumeral, n.isPositional_toNumeral, ?_⟩, ?_⟩
    · rw [n.value_toNumeral, hn]
    · intro pos name
      rw [Step.execute, heval]
      rfl
  · intro hfield
    cases h with
    | @field pos source n hparse =>
      refine ⟨source, record.get source, n, rfl, rfl, hparse, rfl, fun pos name => ?_⟩
      rw [Step.execute, Expr.evaluate]
      rfl
    | _ => exact hfield.elim

end Expr

end RecordScript

namespace RecordScript.Expr

/-- The value of a nested expression, from a field that is written with an exponent. -/
theorem evaluate_hasValue_nested :
    let e : Expr := .binary default .sub (.unary default .minus (.binary default .mul
      (.field default "x") (.literal default (.number ⟨10, 2⟩)))) (.literal default (.number ⟨2, 0⟩))
    HasValue (.ofList [("x", " 1e3 ")]) e (-102) ∧
      ∃ n, e.evaluate {} (.ofList [("x", " 1e3 ")]) = .succeed (.value (.number n)) ∧
        n.value = -102 ∧ ∃ m : Numeral, m.chars = n.format.toList ∧ m.IsPositional ∧
          m.value = -102 := by
  intro e
  have hfield : Decimal.parse ((Record.ofList [("x", " 1e3 ")]).get "x") = some ⟨1, -3⟩ := by
    decide +kernel
  have h : HasValue (.ofList [("x", " 1e3 ")]) e (-102) := by
    have hvalue : -((⟨1, -3⟩ : Decimal).value * (⟨10, 2⟩ : Decimal).value) -
        (⟨2, 0⟩ : Decimal).value = -102 := by norm_num [Decimal.value]
    rw [← hvalue]
    exact .sub (.minus (.mul (.field hfield) .literal)) .literal
  obtain ⟨n, heval, hn, hnumeral, -⟩ := (@evaluate_hasValue _ {} _ _ _ h).1 id
  exact ⟨h, n, heval, hn, hnumeral⟩

/-- A field alone is no number yet, and it is stored with its exponent. -/
theorem evaluate_field_exponent :
    HasValue (.ofList [("x", "1e3")]) (.field default "x") 1000 ∧
      (¬ ∃ n, (Expr.evaluate {} (.ofList [("x", "1e3")]) (.field default "x")).result =
        .ok (.value (.number n))) ∧
      ((Step.assign default "y" (.field default "x")).execute {}
        (.ofList [("x", "1e3")])).record.get "y" = "1e3" ∧
      ¬ ∃ m : Numeral, m.chars = "1e3".toList ∧ m.IsPositional := by
  have hfield : Decimal.parse ((Record.ofList [("x", "1e3")]).get "x") = some ⟨1, -3⟩ := by
    decide +kernel
  have hvalue : (⟨1, -3⟩ : Decimal).value = 1000 := by norm_num [Decimal.value]
  refine ⟨hvalue ▸ .field hfield, ?_, by decide +kernel, ?_⟩
  · rintro ⟨n, hn⟩
    cases hn
  · rintro ⟨m, hchars, -, -, -, hexponent⟩
    have hmark : 'e' ∈ m.chars := by simp [hchars]
    rcases Numeral.mem_chars_of_exponent_eq_none hexponent hmark with h | h | h | h <;> cases h

end RecordScript.Expr
