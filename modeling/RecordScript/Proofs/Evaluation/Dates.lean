import RecordScript.Pattern.PlaceEngine
import RecordScript.Proofs.Calendar.Form
import RecordScript.Proofs.Calendar.Validity
import RecordScript.Proofs.Evaluation.Call

/-!
# Dates that programs read

Whatever the format, a date that a program reads is a day of the calendar, and it is given as the
text that spells it. Read again in the form in which dates are written, this text stays as it is.
-/

namespace RecordScript

open Result

variable [RegexEngine]

namespace Expr

variable {config : Config} {record : Record} {value format : Expr} {text form : String}

/-- A call for a date gives what is read as a date, written in its form. -/
theorem result_readDate_eq_ok (htext : value.GivesText config record text)
    (hform : format.GivesText config record form) {pos : Position} {o : Operand} :
    (Expr.evaluate config record (.call pos "read_date" [value, format])).result = .ok o ↔
      ∃ d, Date.read text form = .ok d ∧ o = .value (.string d.render) := by
  have hname : Builtin.ofName? "read_date" = some .readDate := rfl
  have hargs : (evaluateArgs config record .readDate 0 [value, format]).result =
      .ok [.value (.string text), .value (.string form)] :=
    htext.result_evaluateArgs_cons rfl <| hform.result_evaluateArgs_cons rfl result_evaluateArgs_nil
  rw [result_call hname hargs, map_eq_ok]
  simp only [mapError_eq_ok, Builtin.call, Outcome.ofExcept, Builtin.callReadDate, Operand.toText,
    ok_bind]
  cases Date.read text form with
  | ok d => simp [pure, Except.pure, eq_comm]
  | error problem => simp [throw, throwThe, MonadExceptOf.throw]

/-- A date that is read in any format is a day of the calendar. The text that is given for it spells
this day, and wherever a program reads this text as year, month and day between hyphens, it is given
once more. -/
theorem evaluate_readDate_again (htext : value.GivesText config record text)
    (hform : format.GivesText config record form) {pos : Position} {o : Operand}
    (h : (Expr.evaluate config record (.call pos "read_date" [value, format])).result = .ok o) :
    ∃ (d : Date) (iso : String), d.IsValid ∧ d.IsSpelledBy iso.toList ∧ o = .value (.string iso) ∧
      ∀ (config' : Config) (record' : Record) (value' format' : Expr) (pos' : Position),
        value'.GivesText config' record' iso → format'.GivesText config' record' "%Y-%m-%d" →
        (Expr.evaluate config' record' (.call pos' "read_date" [value', format'])).result =
          .ok o := by
  obtain ⟨d, hread, rfl⟩ := (result_readDate_eq_ok htext hform).mp h
  have hvalid := Date.isValid_of_read hread
  have hspelled := Date.isSpelledBy_render hvalid
  refine ⟨d, d.render, hvalid, hspelled, rfl, fun config' record' value' format' pos' hv hf => ?_⟩
  exact (result_readDate_eq_ok hv hf).mpr ⟨d, hspelled.read hvalid, rfl⟩

end Expr

end RecordScript

namespace RecordScript.Expr

/-- The ides of March, by their day in a leap year below zero. -/
theorem evaluate_readDate_again_ides :
    let value : Expr := .field default "day"
    let format : Expr := .literal default (.string "%j of %Y")
    let iso : Expr := .literal default (.string "%Y-%m-%d")
    let result := Except.ok (.value (.string "-0044-03-15"))
    (value.GivesText {} (.ofList [("day", "  075 of -44 ")]) "  075 of -44 " ∧
      format.GivesText {} (.ofList [("day", "  075 of -44 ")]) "%j of %Y" ∧
      (Expr.evaluate {} (.ofList [("day", "  075 of -44 ")])
        (.call default "read_date" [value, format])).result = result) ∧
    (Expr.evaluate {} (.ofList [("day", "-0044-03-15")])
      (.call default "read_date" [value, iso])).result = result := by
  intro value format iso result
  have htext : value.GivesText {} (.ofList [("day", "  075 of -44 ")]) "  075 of -44 " :=
    givesText_field default "day"
  have hform : format.GivesText {} (.ofList [("day", "  075 of -44 ")]) "%j of %Y" :=
    givesText_literal default "%j of %Y"
  have hread : Date.read "  075 of -44 " "%j of %Y" = .ok ⟨-44, 3, 15⟩ := by decide +kernel
  have h : (Expr.evaluate {} (.ofList [("day", "  075 of -44 ")])
      (.call default "read_date" [value, format])).result = result :=
    (result_readDate_eq_ok htext hform).mpr ⟨⟨-44, 3, 15⟩, hread, rfl⟩
  obtain ⟨d, text, -, -, htext', hagain⟩ := evaluate_readDate_again htext hform h
  refine ⟨⟨htext, hform, h⟩, hagain _ _ _ _ _ ?_ (givesText_literal _ _)⟩
  obtain rfl : "-0044-03-15" = text := by simpa using htext'
  exact givesText_field default "day"

end RecordScript.Expr
