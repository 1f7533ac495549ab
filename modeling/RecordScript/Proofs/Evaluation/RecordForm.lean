import RecordScript.Proofs.Evaluation.Call
import RecordScript.Proofs.Text.Quoted

/-!
# The text that shows a record

A program can show its whole record as one text. The names and texts of the fields are quoted in it,
so that the fields can be told apart whatever they consist of: the text belongs to one record only.
-/

namespace RecordScript

namespace Builtin

/-- The characters that show a field. -/
def fieldForm (field : String × String) : List Char :=
  (Text.quote field.1).toList ++ ':' :: ' ' :: (Text.quote field.2).toList

/-- The characters that show the fields behind the first one, and close the record. -/
def laterForm : FieldList → List Char
  | [] => ['\x7d']
  | field :: rest => ',' :: ' ' :: (fieldForm field ++ laterForm rest)

theorem intercalate_map_append (field : String × String) (rest : FieldList) :
    ", ".toList.intercalate ((field :: rest).map fieldForm) ++ ['\x7d'] =
      fieldForm field ++ laterForm rest := by
  induction rest generalizing field with
  | nil => simp [List.intercalate_singleton, laterForm]
  | cons next rest ih =>
    have hcomma : ", ".toList = [',', ' '] := by rfl
    rw [hcomma] at ih ⊢
    rw [List.map_cons, List.map_cons, List.intercalate_cons_cons, List.append_assoc,
      ← List.map_cons, ih, laterForm, List.append_assoc, List.cons_append, List.singleton_append]

theorem toList_recordForm (record : Record) :
    (recordForm record).toList =
      '\x7b' :: (", ".toList.intercalate (record.fields.map fieldForm) ++ ['\x7d']) := by
  have hform : (String.toList ∘ fun (field : String × String) =>
      s!"{Text.quote field.1}: {Text.quote field.2}") = fieldForm := by
    funext field
    simp [fieldForm, toString]
  show ("\x7b" ++ ", ".intercalate (record.fields.map fun (field : String × String) =>
    s!"{Text.quote field.1}: {Text.quote field.2}") ++ "\x7d").toList = _
  rw [String.toList_append, String.toList_append, String.toList_intercalate, List.map_map, hform]
  rfl

theorem toList_recordForm_of_nil {record : Record} (h : record.fields = []) :
    (recordForm record).toList = ['\x7b', '\x7d'] := by
  rw [toList_recordForm, h, List.map_nil, List.intercalate_nil, List.nil_append]

theorem toList_recordForm_of_cons {record : Record} {field : String × String} {rest : FieldList}
    (h : record.fields = field :: rest) :
    (recordForm record).toList = '\x7b' :: (fieldForm field ++ laterForm rest) := by
  rw [toList_recordForm, h, intercalate_map_append]

/-- Where the characters of a field end can be seen from their front. -/
theorem fieldForm_append_inj {field field' : String × String} {s t : List Char}
    (h : fieldForm field ++ s = fieldForm field' ++ t) : field = field' ∧ s = t := by
  simp only [fieldForm, List.append_assoc, List.cons_append] at h
  obtain ⟨hname, h⟩ := Text.quote_append_inj h
  obtain ⟨htext, hrest⟩ := Text.quote_append_inj (List.cons.inj (List.cons.inj h).2).2
  exact ⟨Prod.ext hname htext, hrest⟩

theorem laterForm_append_inj {fields fields' : FieldList} {s t : List Char}
    (h : laterForm fields ++ s = laterForm fields' ++ t) : fields = fields' ∧ s = t := by
  induction fields generalizing fields' with
  | nil =>
    cases fields' with
    | nil => exact ⟨rfl, (List.cons.inj h).2⟩
    | cons field' rest' => cases (List.cons.inj h).1
  | cons field rest ih =>
    cases fields' with
    | nil => cases (List.cons.inj h).1
    | cons field' rest' =>
      simp only [laterForm, List.cons_append, List.append_assoc] at h
      obtain ⟨rfl, hlater⟩ := fieldForm_append_inj (List.cons.inj (List.cons.inj h).2).2
      obtain ⟨rfl, rfl⟩ := ih hlater
      exact ⟨rfl, rfl⟩

theorem fieldForm_append_ne (field : String × String) (s t : List Char) :
    fieldForm field ++ s ≠ '\x7d' :: t := by
  simp [fieldForm, Text.quote, Text.quoteChars]

/-- Where the text of a record ends can be seen from its front, and it shows one record only. -/
theorem recordForm_append_inj {record record' : Record} {s t : List Char}
    (h : (recordForm record).toList ++ s = (recordForm record').toList ++ t) :
    record = record' ∧ s = t := by
  suffices hfields : record.fields = record'.fields ∧ s = t by
    obtain ⟨fields, _⟩ := record
    obtain ⟨fields', _⟩ := record'
    obtain ⟨rfl, rfl⟩ := hfields
    exact ⟨rfl, rfl⟩
  cases hfields : record.fields with
  | nil =>
    rw [toList_recordForm_of_nil hfields] at h
    cases hfields' : record'.fields with
    | nil =>
      rw [toList_recordForm_of_nil hfields'] at h
      exact ⟨rfl, List.append_cancel_left h⟩
    | cons field' rest' =>
      rw [toList_recordForm_of_cons hfields'] at h
      simp only [List.cons_append, List.append_assoc] at h
      exact absurd (List.cons.inj h).2.symm (fieldForm_append_ne field' _ _)
  | cons field rest =>
    rw [toList_recordForm_of_cons hfields, List.cons_append, List.append_assoc] at h
    cases hfields' : record'.fields with
    | nil =>
      rw [toList_recordForm_of_nil hfields'] at h
      exact absurd (List.cons.inj h).2 (fieldForm_append_ne field _ _)
    | cons field' rest' =>
      rw [toList_recordForm_of_cons hfields', List.cons_append, List.append_assoc] at h
      obtain ⟨rfl, hlater⟩ := fieldForm_append_inj (List.cons.inj h).2
      obtain ⟨rfl, rfl⟩ := laterForm_append_inj hlater
      exact ⟨rfl, rfl⟩

/-- A text that pretends to end its field is shown inside its quotes. -/
example : recordForm (.ofList [("a", "\", \"b\": \"")]) ≠
    recordForm (.ofList [("a", ""), ("b", "")]) := by
  intro h
  have hrecord := (recordForm_append_inj (congrArg (·.toList ++ []) h)).1
  exact absurd hrecord (by decide)

end Builtin

namespace Expr

theorem result_recordText [RegexEngine] (config : Config) (record : Record) (pos : Position) :
    (Expr.evaluate config record (.call pos "record_str" [])).result =
      .ok (.value (.string (Builtin.recordForm record))) := by
  have hname : Builtin.ofName? "record_str" = some .recordText := rfl
  rw [result_call hname result_evaluateArgs_nil, Builtin.call, Outcome.result_succeed,
    Result.mapError_ok, Except.map]

/-- Every record is shown as a text, and two records are shown as the same text only if they have
the same fields with the same texts in the same order. -/
theorem evaluate_recordText_eq_iff [RegexEngine] (config config' : Config) (record record' : Record)
    (pos pos' : Position) :
    ∃ text text',
      (Expr.evaluate config record (.call pos "record_str" [])).result =
        .ok (.value (.string text)) ∧
      (Expr.evaluate config' record' (.call pos' "record_str" [])).result =
        .ok (.value (.string text')) ∧
      (text = text' ↔ record.fields = record'.fields) := by
  refine ⟨_, _, result_recordText config record pos, result_recordText config' record' pos', ?_⟩
  constructor
  · intro h
    have hrecord := Builtin.recordForm_append_inj (congrArg (·.toList ++ []) h)
    rw [hrecord.1]
  · intro h
    rw [Builtin.recordForm, h, ← Builtin.recordForm]

end Expr

end RecordScript
