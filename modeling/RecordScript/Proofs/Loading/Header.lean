import Mathlib.Data.List.Forall2
import Mathlib.Data.List.Nodup
import RecordScript.Loading.Header
import RecordScript.Proofs.Result

/-!
# Valid headers

A header describes a configuration if every directive is a setting with arguments that it takes, and
no setting is given twice. It has a default field if one of its directives sets it.
-/

namespace RecordScript

open Result

variable [RegexEngine]

/-- The expression is a text literal. -/
def Expr.IsText (e : Expr) : Prop := ∃ pos s, e = .literal pos (.string s)

/-- Whether a setting can have the given number of arguments. -/
def Setting.accepts : Setting → Nat → Bool
  | caseInsensitive, n | reverse, n => n = 0
  | defaultField, n => n = 1
  | outputFields, n => n ≠ 0

namespace Directive

/-- The directive is a setting with arguments that it takes. -/
def IsSetting (d : Directive) : Prop :=
  (∀ arg ∈ d.args, Expr.IsText arg) ∧
    ∃ setting, Setting.ofName? d.name = some setting ∧ setting.accepts d.args.length = true

theorem literalText?_eq_some {e : Expr} {s : String} :
    literalText? e = some s ↔ ∃ pos, e = .literal pos (.string s) := by
  cases e with
  | literal pos value => cases value <;> simp [literalText?]
  | _ => simp [literalText?]

theorem mapM_literalText?_eq_some {args : List Expr} {ss : List String} :
    args.mapM literalText? = some ss ↔
      List.Forall₂ (fun e s => ∃ pos, e = .literal pos (.string s)) args ss := by
  induction args generalizing ss with
  | nil =>
    rw [List.mapM_nil, List.forall₂_nil_left_iff]
    exact ⟨fun h => (Option.some.inj h).symm, fun h => h ▸ rfl⟩
  | cons arg args ih =>
    rw [List.mapM_cons, List.forall₂_cons_left_iff]
    simp only [Option.bind_eq_bind, Option.bind_eq_some_iff, literalText?_eq_some, ih]
    grind

/-- The texts of a directive are those of its arguments. -/
theorem texts_eq_ok {d : Directive} {ss : List String} :
    d.texts = .ok ss ↔
      List.Forall₂ (fun e s => ∃ pos, e = .literal pos (.string s)) d.args ss := by
  rw [texts, ← mapM_literalText?_eq_some]
  cases d.args.mapM literalText? <;> simp

/-- A directive has texts if all its arguments are texts. -/
theorem exists_texts_iff {d : Directive} :
    (∃ ss, d.texts = .ok ss) ↔ ∀ arg ∈ d.args, Expr.IsText arg := by
  simp only [texts_eq_ok]
  induction d.args with
  | nil => simp
  | cons arg args ih =>
    rw [List.forall_mem_cons, ← ih]
    simp only [List.forall₂_cons_left_iff, Expr.IsText]
    grind

/-- The texts of a directive are as many as its arguments. -/
theorem length_of_texts {d : Directive} {ss : List String} (h : d.texts = .ok ss) :
    d.args.length = ss.length :=
  (texts_eq_ok.mp h).length_eq

/-- A directive can be applied to a configuration if it is a setting. -/
theorem exists_configure_iff {config : Config} {d : Directive} :
    (∃ config', d.configure config = .ok config') ↔ d.IsSetting := by
  rw [configure, IsSetting, ← exists_texts_iff]
  cases hss : d.texts with
  | error fault => simp
  | ok ss =>
    rw [length_of_texts hss]
    cases Setting.ofName? d.name with
    | none => simp
    | some setting =>
      cases setting <;> rcases ss with _ | ⟨s, _ | ⟨t, ss⟩⟩ <;> simp [Setting.accepts]

omit [RegexEngine] in
theorem ofName?_eq_defaultField {name : String} :
    Setting.ofName? name = some .defaultField ↔ name = "default_field" := by
  unfold Setting.ofName?
  split <;> simp_all

/-- A directive adds a default field only if this is its name. -/
theorem defaultField_of_configure {config config' : Config} {d : Directive}
    (h : d.configure config = .ok config') :
    config'.defaultField ≠ none ↔ config.defaultField ≠ none ∨ d.name = "default_field" := by
  rw [configure] at h
  rw [← ofName?_eq_defaultField]
  obtain ⟨ss, -, h⟩ := bind_eq_ok.mp h
  cases hs : Setting.ofName? d.name with
  | none => simp [hs] at h
  | some setting =>
    cases setting <;> rcases ss with _ | ⟨s, _ | ⟨t, ss⟩⟩ <;> simp [hs] at h <;> subst h <;> simp

end Directive

/-- The header describes a configuration: its directives are settings, and none is given twice. -/
structure IsHeader (header : List Directive) : Prop where
  settings : ∀ d ∈ header, d.IsSetting
  names_nodup : (header.map DirectiveOf.name).Nodup

namespace Config

theorem exists_extend_iff {config : Config} {seen : List String} {header : List Directive} :
    (∃ config', config.extend seen header = .ok config') ↔
      (∀ d ∈ header, d.name ∉ seen ∧ d.IsSetting) ∧ (header.map DirectiveOf.name).Nodup := by
  induction header generalizing config seen with
  | nil => simp [extend]
  | cons d ds ih =>
    rw [extend, List.forall_mem_cons, List.map_cons, List.nodup_cons]
    by_cases hseen : d.name ∈ seen
    · simp [hseen]
    · cases hc : d.configure config with
      | error fault =>
        have hnot : ¬ d.IsSetting := by
          rintro h
          obtain ⟨config', h⟩ := Directive.exists_configure_iff.mpr h
          rw [hc] at h
          cases h
        simp [hseen, hnot]
      | ok config' =>
        have hset : d.IsSetting := Directive.exists_configure_iff.mp ⟨config', hc⟩
        simp only [hseen, hset, List.contains_iff_mem, if_false, ih, List.mem_cons, List.mem_map]
        grind

/-- A header describes a configuration if it is valid. -/
theorem exists_ofHeader_iff {options : LoadOptions} {header : List Directive} :
    (∃ config, ofHeader options header = .ok config) ↔ IsHeader header := by
  rw [ofHeader, exists_extend_iff]
  constructor
  · rintro ⟨hset, hnames⟩
    exact ⟨fun d hd => (hset d hd).2, hnames⟩
  · rintro ⟨hset, hnames⟩
    exact ⟨fun d hd => ⟨List.not_mem_nil, hset d hd⟩, hnames⟩

theorem defaultField_of_extend {config config' : Config} {seen : List String}
    {header : List Directive} (h : config.extend seen header = .ok config') :
    config'.defaultField ≠ none ↔
      config.defaultField ≠ none ∨ ∃ d ∈ header, d.name = "default_field" := by
  induction header generalizing config seen with
  | nil =>
    obtain rfl : config = config' := by simpa [extend] using h
    simp
  | cons d ds ih =>
    rw [extend] at h
    split at h
    · cases h
    · cases hc : d.configure config with
      | error fault => simp [hc] at h
      | ok config'' =>
        rw [ih (by simpa [hc] using h), Directive.defaultField_of_configure hc]
        simp [or_assoc]

/-- A configuration has a default field if its header sets it. -/
theorem defaultField_of_ofHeader {options : LoadOptions} {header : List Directive} {config : Config}
    (h : ofHeader options header = .ok config) :
    config.defaultField ≠ none ↔ ∃ d ∈ header, d.name = "default_field" := by
  rw [defaultField_of_extend h]
  simp [ofOptions]

end Config

end RecordScript
