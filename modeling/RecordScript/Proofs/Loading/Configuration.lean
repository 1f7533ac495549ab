import Mathlib.Data.List.Nodup
import RecordScript.Pattern.PlaceEngine
import RecordScript.Proofs.Loading.Header

/-!
# Configurations of headers

A valid header declares its settings whatever the order of its directives: each setting has the value
that the one directive of its name gives it, and what the host supplies is kept. A header that is not
valid is refused at the first directive with which it stops being valid, for what is wrong with this
one, and no order of its directives makes it valid.
-/

namespace RecordScript

open Result

namespace Setting

/-- The name of a setting. -/
def name : Setting → String
  | caseInsensitive => "case_insensitive"
  | reverse => "reverse"
  | defaultField => "default_field"
  | outputFields => "output_fields"

theorem ofName?_eq_some_iff {name : String} {s : Setting} :
    ofName? name = some s ↔ name = s.name := by
  constructor
  · unfold ofName?
    split <;> rintro ⟨⟩ <;> rfl
  · rintro rfl
    cases s <;> rfl

theorem name_inj {s t : Setting} (h : s.name = t.name) : s = t :=
  Option.some.inj ((ofName?_eq_some_iff.mpr rfl).symm.trans (ofName?_eq_some_iff.mpr h))

/-- The setting with the given texts makes the second configuration of the first one. -/
inductive Sets : Setting → List String → Config → Config → Prop where
  | caseInsensitive (c : Config) : Sets caseInsensitive [] c { c with caseInsensitive := true }
  | reverse (c : Config) : Sets reverse [] c { c with reverse := true }
  | defaultField (c : Config) (field : String) :
    Sets defaultField [field] c { c with defaultField := some field }
  | outputFields (c : Config) (field : String) (fields : List String) :
    Sets outputFields (field :: fields) c { c with outputFields := some (field :: fields) }

/-- Every part of a configuration has one setting that can change it. -/
theorem Sets.keeps {s : Setting} {ss : List String} {c c' : Config} (h : s.Sets ss c c') :
    (s ≠ .caseInsensitive → c'.caseInsensitive = c.caseInsensitive) ∧
    (s ≠ .reverse → c'.reverse = c.reverse) ∧
    (s ≠ .defaultField → c'.defaultField = c.defaultField) ∧
    (s ≠ .outputFields → c'.outputFields = c.outputFields) := by
  cases h <;> simp

end Setting

variable [RegexEngine]

namespace Directive

variable {d : Directive}

/-- The names of the settings, each with the numbers of arguments that it can have. -/
inductive CanHave : String → Nat → Prop where
  | caseInsensitive : CanHave "case_insensitive" 0
  | reverse : CanHave "reverse" 0
  | defaultField : CanHave "default_field" 1
  | outputFields (n : Nat) : CanHave "output_fields" (n + 1)

omit [RegexEngine] in
theorem canHave_iff {name : String} {n : Nat} : CanHave name n ↔
    ∃ setting, Setting.ofName? name = some setting ∧ setting.accepts n = true := by
  simp only [Setting.ofName?_eq_some_iff]
  constructor
  · rintro (_ | _ | _ | n)
    · exact ⟨.caseInsensitive, rfl, rfl⟩
    · exact ⟨.reverse, rfl, rfl⟩
    · exact ⟨.defaultField, rfl, rfl⟩
    · exact ⟨.outputFields, rfl, by simp [Setting.accepts]⟩
  · rintro ⟨setting, rfl, haccepts⟩
    cases setting <;> simp only [Setting.accepts, decide_eq_true_eq] at haccepts
    · exact haccepts ▸ .caseInsensitive
    · exact haccepts ▸ .reverse
    · exact haccepts ▸ .defaultField
    · obtain ⟨m, rfl⟩ := Nat.exists_eq_succ_of_ne_zero haccepts
      exact .outputFields m

/-- Why a setting, or what is none, cannot have some number of arguments. -/
inductive CannotHave : String → Nat → DirectiveFault → Prop where
  | caseInsensitive (n : Nat) : CannotHave "case_insensitive" (n + 1) (.takesNone "case_insensitive")
  | reverse (n : Nat) : CannotHave "reverse" (n + 1) (.takesNone "reverse")
  | defaultField (n : Nat) : n ≠ 1 → CannotHave "default_field" n .notOneField
  | outputFields : CannotHave "output_fields" 0 .noFields
  | unknown (name : String) (n : Nat) : (∀ s : Setting, name ≠ s.name) →
    CannotHave name n (.unknown name)

/-- Why the directive cannot stand behind directives of the given names: it repeats one of them, or
else its arguments are no texts, or else there are too few or too many. -/
inductive IsRefused (d : Directive) (names : List String) : DirectiveFault → Prop where
  | repeated : d.name ∈ names → IsRefused d names (.repeated d.name)
  | notLiteral : d.name ∉ names → ¬ (∀ arg ∈ d.args, Expr.IsText arg) →
    IsRefused d names (.notLiteral d.name)
  | cannotHave {fault : DirectiveFault} : d.name ∉ names → (∀ arg ∈ d.args, Expr.IsText arg) →
    CannotHave d.name d.args.length fault → IsRefused d names fault

theorem IsRefused.congr {names names' : List String} {fault : DirectiveFault}
    (h : ∀ name, name ∈ names ↔ name ∈ names') (hd : IsRefused d names fault) :
    IsRefused d names' fault := by
  cases hd with
  | repeated hseen => exact .repeated ((h _).mp hseen)
  | notLiteral hseen htexts => exact .notLiteral (mt (h _).mpr hseen) htexts
  | cannotHave hseen htexts hcount => exact .cannotHave (mt (h _).mpr hseen) htexts hcount

/-- The arguments of the directive are the given texts, in this order. -/
def Gives (d : Directive) (ss : List String) : Prop :=
  List.Forall₂ (fun e s => ∃ pos, e = .literal pos (.string s)) d.args ss

theorem Gives.unique {ss ts : List String} (hs : Gives d ss) (ht : Gives d ts) : ss = ts :=
  Except.ok.inj ((texts_eq_ok.mpr hs).symm.trans (texts_eq_ok.mpr ht))

/-- A directive that can be applied makes the change of the setting of its name. -/
theorem exists_sets_of_configure {c c' : Config} (h : configure c d = .ok c') :
    ∃ (s : Setting) (ss : List String), d.name = s.name ∧ Gives d ss ∧ s.Sets ss c c' := by
  obtain ⟨ss, hss, h⟩ := bind_eq_ok.mp h
  cases hs : Setting.ofName? d.name with
  | none => simp [hs] at h
  | some s =>
    refine ⟨s, ss, Setting.ofName?_eq_some_iff.mp hs, texts_eq_ok.mp hss, ?_⟩
    cases s <;> rcases ss with _ | ⟨s, _ | ⟨t, ss⟩⟩ <;> simp [hs] at h <;> subst h <;> constructor

/-- A directive that cannot be applied is refused for its arguments. -/
theorem isRefused_of_configure {c : Config} {names : List String} {fault : DirectiveFault}
    (hseen : d.name ∉ names) (h : configure c d = .error fault) : IsRefused d names fault := by
  rcases bind_eq_error.mp h with h | ⟨ss, hss, h⟩
  · have htexts : ¬ ∀ arg ∈ d.args, Expr.IsText arg := by
      rw [← exists_texts_iff]
      rintro ⟨ss, hss⟩
      rw [h] at hss
      cases hss
    rw [texts] at h
    split at h
    · cases h
    · obtain rfl := Except.error.inj h
      exact .notLiteral hseen htexts
  · refine .cannotHave hseen (exists_texts_iff.mp ⟨ss, hss⟩) ?_
    rw [length_of_texts hss]
    cases hs : Setting.ofName? d.name with
    | none =>
      rw [hs] at h
      obtain rfl : DirectiveFault.unknown d.name = fault := Except.error.inj h
      refine .unknown _ _ fun s hname => ?_
      rw [Setting.ofName?_eq_some_iff.mpr hname] at hs
      cases hs
    | some s =>
      rw [hs, Setting.ofName?_eq_some_iff.mp hs] at h
      rw [Setting.ofName?_eq_some_iff.mp hs]
      cases s with
      | caseInsensitive =>
        cases ss with
        | nil => cases h
        | cons t ss => exact Except.error.inj h ▸ .caseInsensitive _
      | reverse =>
        cases ss with
        | nil => cases h
        | cons t ss => exact Except.error.inj h ▸ .reverse _
      | defaultField =>
        rcases ss with _ | ⟨t, _ | ⟨t', ss⟩⟩
        · exact Except.error.inj h ▸ .defaultField _ (by simp)
        · cases h
        · exact Except.error.inj h ▸ .defaultField _ (by simp)
      | outputFields =>
        cases ss with
        | nil => exact Except.error.inj h ▸ .outputFields
        | cons t ss => cases h

end Directive

namespace Config

/-- The directives, one after the other, make the second configuration of the first one. -/
inductive Applies : List Directive → Config → Config → Prop where
  | nil (c : Config) : Applies [] c c
  | cons {d : Directive} {ds : List Directive} {s : Setting} {ss : List String} {c c' c'' : Config} :
    d.name = s.name → d.Gives ss → s.Sets ss c c' → Applies ds c' c'' → Applies (d :: ds) c c''

variable {config config' : Config} {seen : List String} {header : List Directive}

theorem applies_of_extend (h : config.extend seen header = .ok config') :
    Applies header config config' := by
  induction header generalizing config seen with
  | nil =>
    obtain rfl : config = config' := by simpa [extend] using h
    exact .nil config
  | cons d ds ih =>
    rw [extend] at h
    split at h
    · cases h
    · cases hc : Directive.configure config d with
      | error fault => simp [hc] at h
      | ok mid =>
        obtain ⟨s, ss, hname, hgives, hsets⟩ := Directive.exists_sets_of_configure hc
        exact .cons hname hgives hsets (ih (by simpa [hc] using h))

/-- A part of the configuration that only one setting changes has the value that a directive of this
setting gives it, or the value it had if there is no such directive. -/
theorem Applies.tracks {α : Type} {part : Config → α} {s : Setting}
    (hkeeps : ∀ {t : Setting} {ss : List String} {c c' : Config},
      t.Sets ss c c' → t ≠ s → part c' = part c)
    (h : Applies header config config') :
    (∃ d ∈ header, d.name = s.name ∧ ∃ (ss : List String) (c c' : Config),
      d.Gives ss ∧ s.Sets ss c c' ∧ part config' = part c') ∨
    (∀ d ∈ header, d.name ≠ s.name) ∧ part config' = part config := by
  induction h with
  | nil c => exact .inr ⟨by simp, rfl⟩
  | @cons d ds t ss c mid c' hname hgives hsets _ ih =>
    rcases ih with ⟨d', hd', hlater⟩ | ⟨hnone, hpart⟩
    · exact .inl ⟨d', List.mem_cons_of_mem _ hd', hlater⟩
    · by_cases hs : t = s
      · subst hs
        exact .inl ⟨d, List.mem_cons_self, hname, ss, c, mid, hgives, hsets, hpart⟩
      · refine .inr ⟨List.forall_mem_cons.mpr ⟨?_, hnone⟩, hpart.trans (hkeeps hsets hs)⟩
        exact fun heq => hs (Setting.name_inj (hname.symm.trans heq))

/-- No directive changes what the host supplies. -/
theorem Applies.options (h : Applies header config config') :
    config'.stringMatch = config.stringMatch ∧ config'.protocols = config.protocols := by
  induction h with
  | nil c => exact ⟨rfl, rfl⟩
  | cons _ _ hsets _ ih => cases hsets <;> exact ih

/-- The configuration has what the header declares and otherwise what the host supplies. -/
structure IsDeclaredBy (config : Config) (options : LoadOptions) (header : List Directive) :
    Prop where
  caseInsensitive : config.caseInsensitive = true ↔ ∃ d ∈ header, d.name = "case_insensitive"
  reverse : config.reverse = true ↔ ∃ d ∈ header, d.name = "reverse"
  defaultField : ∀ field, config.defaultField = some field ↔
    ∃ d ∈ header, d.name = "default_field" ∧ d.Gives [field]
  outputFields : ∀ fields, config.outputFields = some fields ↔
    ∃ d ∈ header, d.name = "output_fields" ∧ d.Gives fields
  stringMatch : config.stringMatch = options.stringMatch
  protocols : config.protocols = options.protocols

/-- A header declares one configuration. -/
theorem IsDeclaredBy.unique {options : LoadOptions} (h : config.IsDeclaredBy options header)
    (h' : config'.IsDeclaredBy options header) : config = config' := by
  have hcase : config.caseInsensitive = config'.caseInsensitive :=
    Bool.eq_iff_iff.mpr (h.caseInsensitive.trans h'.caseInsensitive.symm)
  have hreverse : config.reverse = config'.reverse :=
    Bool.eq_iff_iff.mpr (h.reverse.trans h'.reverse.symm)
  have hdefault : config.defaultField = config'.defaultField :=
    Option.ext fun field => (h.defaultField field).trans (h'.defaultField field).symm
  have houtput : config.outputFields = config'.outputFields :=
    Option.ext fun fields => (h.outputFields fields).trans (h'.outputFields fields).symm
  have hmatch := h.stringMatch.trans h'.stringMatch.symm
  have hprotocols := h.protocols.trans h'.protocols.symm
  cases config
  cases config'
  simp_all

/-- The order of the directives does not matter for what they declare. -/
theorem IsDeclaredBy.perm {options : LoadOptions} {header' : List Directive}
    (hperm : header'.Perm header) (h : config.IsDeclaredBy options header) :
    config.IsDeclaredBy options header' := by
  constructor
  · simpa only [hperm.mem_iff] using h.caseInsensitive
  · simpa only [hperm.mem_iff] using h.reverse
  · simpa only [hperm.mem_iff] using h.defaultField
  · simpa only [hperm.mem_iff] using h.outputFields
  · exact h.stringMatch
  · exact h.protocols

/-- A switch that only one setting turns on is on if the header has this setting. -/
theorem Applies.switch {part : Config → Bool} (s : Setting)
    (hkeeps : ∀ {t : Setting} {ss : List String} {c c' : Config},
      t.Sets ss c c' → t ≠ s → part c' = part c)
    (hsets : ∀ {ss : List String} {c c' : Config}, s.Sets ss c c' → part c' = true)
    (hstart : part config = false) (h : Applies header config config') :
    part config' = true ↔ ∃ d ∈ header, d.name = s.name := by
  rcases h.tracks hkeeps with ⟨d, hd, hname, ss, c, c', -, hs, hpart⟩ | ⟨hnone, hpart⟩
  · exact iff_of_true (hpart.trans (hsets hs)) ⟨d, hd, hname⟩
  · refine iff_of_false (by simp [hpart, hstart]) ?_
    rintro ⟨d, hd, hname⟩
    exact hnone d hd hname

/-- A part that only one setting fills has what the directive of this setting gives. -/
theorem Applies.content {α : Type} {part : Config → Option α} (s : Setting)
    (texts : α → List String)
    (hkeeps : ∀ {t : Setting} {ss : List String} {c c' : Config},
      t.Sets ss c c' → t ≠ s → part c' = part c)
    (hsets : ∀ {ss : List String} {c c' : Config},
      s.Sets ss c c' → ∀ a, part c' = some a ↔ ss = texts a)
    (hstart : part config = none) (hnames : (header.map DirectiveOf.name).Nodup)
    (h : Applies header config config') (a : α) :
    part config' = some a ↔ ∃ d ∈ header, d.name = s.name ∧ d.Gives (texts a) := by
  rcases h.tracks hkeeps with ⟨d, hd, hname, ss, c, c', hgives, hs, hpart⟩ | ⟨hnone, hpart⟩
  · rw [hpart, hsets hs]
    constructor
    · rintro rfl
      exact ⟨d, hd, hname, hgives⟩
    · rintro ⟨d', hd', hname', hgives'⟩
      -- two directives of one name are the same one
      obtain rfl := List.inj_on_of_nodup_map hnames hd hd' (hname.trans hname'.symm)
      exact hgives.unique hgives'
  · refine iff_of_false (by simp [hpart, hstart]) ?_
    rintro ⟨d, hd, hname, -⟩
    exact hnone d hd hname

/-- The configuration of a header is what the header declares. -/
theorem isDeclaredBy_of_ofHeader {options : LoadOptions} (h : ofHeader options header = .ok config) :
    config.IsDeclaredBy options header := by
  have happlies := applies_of_extend h
  have hnames := (exists_ofHeader_iff.mp ⟨config, h⟩).names_nodup
  constructor
  · refine happlies.switch .caseInsensitive (fun h => h.keeps.1) ?_ rfl
    rintro _ _ _ ⟨⟩
    rfl
  · refine happlies.switch .reverse (fun h => h.keeps.2.1) ?_ rfl
    rintro _ _ _ ⟨⟩
    rfl
  · refine happlies.content .defaultField (fun field => [field])
      (fun h => h.keeps.2.2.1) ?_ rfl hnames
    rintro _ _ _ ⟨⟩
    simp
  · refine happlies.content .outputFields id (fun h => h.keeps.2.2.2) ?_ rfl hnames
    rintro _ _ _ ⟨⟩
    simp
  · exact happlies.options.1
  · exact happlies.options.2

/-- A header gives a configuration if it is valid and declares it. -/
theorem ofHeader_eq_ok_iff {options : LoadOptions} :
    ofHeader options header = .ok config ↔ IsHeader header ∧ config.IsDeclaredBy options header := by
  constructor
  · intro h
    exact ⟨exists_ofHeader_iff.mp ⟨config, h⟩, isDeclaredBy_of_ofHeader h⟩
  · rintro ⟨hheader, hdeclared⟩
    obtain ⟨config', h⟩ := exists_ofHeader_iff.mpr hheader
    rw [h, hdeclared.unique (isDeclaredBy_of_ofHeader h)]

/-- A refused header is refused at a directive, and what stands before it is accepted. -/
theorem extend_eq_error {error : LoadError} (h : config.extend seen header = .error error) :
    ∃ before d after fault, header = before ++ d :: after ∧ error = .badDirective d.position fault ∧
      d.IsRefused (before.map DirectiveOf.name ++ seen) fault ∧
      (∃ c, config.extend seen before = .ok c) ∧
      ¬ ∃ c, config.extend seen (before ++ [d]) = .ok c := by
  induction header generalizing config seen with
  | nil => cases h
  | cons d ds ih =>
    by_cases hseen : d.name ∈ seen
    · obtain rfl : LoadError.badDirective d.position (.repeated d.name) = error := by
        simpa [extend, hseen] using h
      exact ⟨[], d, ds, _, rfl, rfl, .repeated hseen, ⟨config, rfl⟩, by simp [extend, hseen]⟩
    · cases hc : Directive.configure config d with
      | error fault =>
        obtain rfl : LoadError.badDirective d.position fault = error := by
          simpa [extend, hseen, hc] using h
        exact ⟨[], d, ds, fault, rfl, rfl, Directive.isRefused_of_configure hseen hc,
          ⟨config, rfl⟩, by simp [extend, hseen, hc]⟩
      | ok mid =>
        obtain ⟨before, d', after, fault, rfl, rfl, hrefused, hok, hbad⟩ :=
          ih (by simpa [extend, hseen, hc] using h)
        refine ⟨d :: before, d', after, fault, rfl, rfl, ?_, ?_, ?_⟩
        · -- the names before it are the same, in another order
          refine hrefused.congr fun name => ?_
          rw [List.map_cons, List.cons_append, List.perm_middle.mem_iff]
        · simpa [extend, hseen, hc] using hok
        · simpa [extend, hseen, hc] using hbad

end Config

namespace IsHeader

variable {header header' : List Directive}

theorem perm (hperm : header'.Perm header) (h : IsHeader header) : IsHeader header' where
  settings d hd := h.settings d (hperm.mem_iff.mp hd)
  names_nodup := (hperm.map _).nodup_iff.mpr h.names_nodup

/-- What a valid header begins with is valid. -/
theorem of_prefix (hbegins : header' <+: header) (h : IsHeader header) : IsHeader header' where
  settings d hd := h.settings d (hbegins.subset hd)
  names_nodup := h.names_nodup.sublist (hbegins.sublist.map _)

/-- A header is valid if its names differ and every directive has one of the names of settings, with
as many arguments as this setting can have, all of them texts. -/
theorem iff_canHave : IsHeader header ↔ (header.map DirectiveOf.name).Nodup ∧
    ∀ d ∈ header, Directive.CanHave d.name d.args.length ∧ ∀ arg ∈ d.args, Expr.IsText arg := by
  simp only [Directive.canHave_iff]
  constructor
  · rintro ⟨hsettings, hnames⟩
    exact ⟨hnames, fun d hd => (hsettings d hd).symm⟩
  · rintro ⟨hnames, hsettings⟩
    exact ⟨fun d hd => (hsettings d hd).symm, hnames⟩

/-- The valid beginnings of a header are those that end before the first directive that spoils it. -/
theorem take_iff {before after : List Directive} {d : Directive} (hbefore : IsHeader before)
    (hbad : ¬ IsHeader (before ++ [d])) (k : Nat) :
    IsHeader ((before ++ d :: after).take k) ↔ k ≤ before.length := by
  constructor
  · intro h
    -- a longer beginning holds the directive that spoils it
    by_contra hk
    refine hbad (h.of_prefix ?_)
    rw [List.prefix_take_iff]
    exact ⟨⟨after, by simp⟩, by simp; omega⟩
  · intro hk
    rw [List.take_append_of_le_length hk]
    exact hbefore.of_prefix (List.take_prefix k before)

end IsHeader

namespace Config

/-- A refused header is refused at the first directive with which it is not valid any more. -/
theorem exists_first_of_ofHeader_eq_error {options : LoadOptions} {header : List Directive}
    {error : LoadError} (h : ofHeader options header = .error error) :
    ∃ i d fault, header[i]? = some d ∧ error = .badDirective d.position fault ∧
      d.IsRefused ((header.take i).map DirectiveOf.name) fault ∧
      ∀ k, IsHeader (header.take k) ↔ k ≤ i := by
  obtain ⟨before, d, after, fault, rfl, rfl, hrefused, hok, hbad⟩ := extend_eq_error h
  rw [List.append_nil] at hrefused
  refine ⟨before.length, d, fault, by simp, rfl, by rwa [List.take_left], ?_⟩
  exact IsHeader.take_iff (exists_ofHeader_iff.mp hok) (mt exists_ofHeader_iff.mpr hbad)

/-- Header configuration is exact and does not depend on the order of the directives. -/
theorem ofHeader_order_free (options : LoadOptions) (header : List Directive) :
    ((∃ config, ofHeader options header = .ok config) ↔
      (header.map DirectiveOf.name).Nodup ∧
      ∀ d ∈ header, Directive.CanHave d.name d.args.length ∧ ∀ arg ∈ d.args, Expr.IsText arg) ∧
    (∀ config, ofHeader options header = .ok config → config.IsDeclaredBy options header ∧
      ∀ header', header'.Perm header → ofHeader options header' = .ok config) ∧
    ∀ error, ofHeader options header = .error error →
      (∃ i d fault, header[i]? = some d ∧ error = .badDirective d.position fault ∧
        d.IsRefused ((header.take i).map DirectiveOf.name) fault ∧
        ∀ k, (∃ config, ofHeader options (header.take k) = .ok config) ↔ k ≤ i) ∧
      ∀ header', header'.Perm header → ∃ error', ofHeader options header' = .error error' := by
  refine ⟨exists_ofHeader_iff.trans IsHeader.iff_canHave, ?_, ?_⟩
  · intro config h
    obtain ⟨hheader, hdeclared⟩ := ofHeader_eq_ok_iff.mp h
    refine ⟨hdeclared, fun header' hperm => ?_⟩
    exact ofHeader_eq_ok_iff.mpr ⟨hheader.perm hperm, hdeclared.perm hperm⟩
  · intro error h
    constructor
    · obtain ⟨i, d, fault, hd, herror, hrefused, hvalid⟩ := exists_first_of_ofHeader_eq_error h
      exact ⟨i, d, fault, hd, herror, hrefused, fun k => exists_ofHeader_iff.trans (hvalid k)⟩
    · intro header' hperm
      cases h' : ofHeader options header' with
      | error error' => exact ⟨error', rfl⟩
      | ok config =>
        have hheader := (exists_ofHeader_iff.mp ⟨config, h'⟩).perm hperm.symm
        obtain ⟨config', hok⟩ := exists_ofHeader_iff.mpr hheader
        rw [h] at hok
        cases hok

end Config

end RecordScript

namespace RecordScript.Config.OrderFree

/-- A directive for the columns of the output. -/
def columns : Directive :=
  ⟨"output_fields", [.literal ⟨"m", 1, 16⟩ (.string "date"), .literal ⟨"m", 1, 24⟩ (.string "sum")],
    false, ⟨"m", 1, 1⟩⟩

/-- A directive for the order of the records. -/
def backwards : Directive := ⟨"reverse", [], false, ⟨"m", 2, 1⟩⟩

/-- A directive that no header can have beside the other one. -/
def again : Directive := ⟨"reverse", [], false, ⟨"m", 3, 1⟩⟩

theorem ofHeader_order_free_columns :
    ofHeader {} [columns, backwards] =
      .ok { outputFields := some ["date", "sum"], reverse := true } ∧
    ofHeader {} [backwards, columns] =
      .ok { outputFields := some ["date", "sum"], reverse := true } ∧
    ofHeader {} [backwards, columns, again] =
      .error (.badDirective ⟨"m", 3, 1⟩ (.repeated "reverse")) ∧
    ∃ error, ofHeader {} [again, columns, backwards] = .error error := by
  have hok : ofHeader {} [columns, backwards] =
      .ok { outputFields := some ["date", "sum"], reverse := true } := rfl
  have hrefused : ofHeader {} [backwards, columns, again] =
      .error (.badDirective ⟨"m", 3, 1⟩ (.repeated "reverse")) := rfl
  refine ⟨hok, ?_, hrefused, ?_⟩
  · exact ((ofHeader_order_free {} [columns, backwards]).2.1 _ hok).2 _ (.swap columns backwards [])
  · refine ((ofHeader_order_free {} [backwards, columns, again]).2.2 _ hrefused).2 _ ?_
    exact List.reverse_perm [backwards, columns, again]

end RecordScript.Config.OrderFree
