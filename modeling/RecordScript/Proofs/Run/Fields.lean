import RecordScript.Pattern.PlaceEngine
import RecordScript.Proofs.Execution.Writes
import RecordScript.Proofs.Loading.Validity
import RecordScript.Proofs.Run.Policy
import RecordScript.Proofs.Syntax.Equality
import RecordScript.Source.Table

/-!
# Fields of what a run gives

The fields that a program assigns are found by looking at its steps alone, and no execution writes
any other. So what goes out of a run has no field besides those of the input and those that the
program is said to add, and a writer that lists these loses none.
-/

namespace RecordScript

section Distinct

variable {α : Type} [BEq α] [LawfulBEq α]

theorem distinct_filter (p : α → Bool) (as : List α) :
    distinct (as.filter p) = (distinct as).filter p := by
  induction as with
  | nil => rfl
  | cons a as ih =>
    rw [distinct, List.filter_cons, List.filter_cons]
    split
    · rw [distinct, ih, List.filter_comm]
    · rename_i ha
      rw [ih, List.filter_filter]
      refine List.filter_congr fun b _ => ?_
      by_cases hb : b = a
      · subst hb
        simp [ha]
      · simp [hb]

/-- The distinct elements are those that remain when later copies are erased. -/
theorem distinct_eq_eraseDups (as : List α) : distinct as = as.eraseDups := by
  induction h : as.length using Nat.strong_induction_on generalizing as with
  | _ n ih =>
    cases as with
    | nil => rfl
    | cons a as =>
      have hlength : (as.filter (· != a)).length < n := by
        have hle := List.length_filter_le (· != a) as
        rw [List.length_cons] at h
        omega
      rw [distinct, List.eraseDups_cons, ← distinct_filter, ih _ hlength _ rfl]
      rfl

theorem nodup_distinct (as : List α) : (distinct as).Nodup := by
  induction as with
  | nil => exact List.nodup_nil
  | cons a as ih =>
    rw [distinct, List.nodup_cons]
    exact ⟨by simp, ih.filter _⟩

theorem mem_distinct {a : α} {as : List α} : a ∈ distinct as ↔ a ∈ as := by
  rw [distinct_eq_eraseDups, List.mem_eraseDups]

end Distinct

variable [RegexEngine]

namespace Program

variable {p : Program}

theorem execute_isTraced (p : Program) (record : Record) :
    (p.execute record).IsTraced record (stepsAssigned p.steps) :=
  executeSteps_isTraced p.steps record

/-- A record loses none of its fields, and gains only fields that the program assigns. -/
theorem mem_names_execute {record : Record} {name : String}
    (h : name ∈ (p.execute record).record.names) : name ∈ record.names ∨ name ∈ p.assignedFields := by
  have htraced := p.execute_isTraced record
  rw [htraced.record_eq] at h
  rcases Record.mem_names_setAll.mp h with h | h
  · exact .inl h
  · obtain ⟨w, hw, rfl⟩ := List.mem_map.mp h
    exact .inr (mem_distinct.mpr (htraced.mem_fields w hw))

theorem get?_execute {record : Record} {name : String} (h : name ∉ p.assignedFields) :
    (p.execute record).record.get? name = record.get? name := by
  have htraced := p.execute_isTraced record
  rw [htraced.record_eq]
  refine Record.get?_setAll fun w hw heq => h ?_
  exact mem_distinct.mpr (heq ▸ htraced.mem_fields w hw)

theorem eq_execute_of_transform {record made : Record}
    (h : (p.transform record).result = .ok made) : made = (p.execute record).record := by
  rw [transform] at h
  split at h
  · exact (Except.ok.inj h).symm
  · cases h

theorem eq_execute_of_made? {input : Nat × Record} {record : Record}
    (h : p.made? input = some record) : record = (p.execute input.2).record := by
  rw [made?] at h
  split at h
  · rename_i made hresult
    exact Option.some.inj h ▸ eq_execute_of_transform hresult
  · cases h

/-- What goes out for a record is the record itself, or what the program makes of it. -/
theorem eq_of_emitted? {policy : ErrorPolicy} {input : Nat × Record} {record : Record}
    (h : p.emitted? policy input = some record) :
    record = input.2 ∨ record = (p.execute input.2).record := by
  cases policy with
  | abort | skip => exact .inr (eq_execute_of_made? h)
  | keep =>
    -- a record that fails goes out as it came in
    rw [emitted?, madeOrKept] at h
    cases hmade : p.made? input with
    | none =>
      rw [hmade] at h
      exact .inl (Option.some.inj h).symm
    | some made =>
      rw [hmade] at h
      obtain rfl : made = record := Option.some.inj h
      exact .inr (eq_execute_of_made? hmade)

/-- A record that goes out of a run is a record of the input, or what the program makes of one. -/
theorem exists_input_of_run {policy : ErrorPolicy} {records : List Record} {out : RunOutput}
    (h : (p.run policy records).result = .ok out) {record : Record} (hrecord : record ∈ out.records) :
    ∃ input ∈ records, record = input ∨ record = (p.execute input).record := by
  have hmem : ∀ {input}, input ∈ p.ordered records → input.2 ∈ records := by
    intro input hinput
    exact List.mem_of_getElem? (mem_ordered.mp hinput)
  by_cases hpolicy : policy = .abort
  · subst hpolicy
    rcases runInputs_abort (p := p) (p.ordered records) with
      ⟨made, hresults, hrun⟩ | ⟨before, input, after, e, -, -, -, hrun⟩
    · rw [run, hrun] at h
      obtain rfl := Except.ok.inj h
      have hok : Except.ok record ∈ (p.ordered records).map fun input =>
          (p.transform input.2).result := hresults ▸ List.mem_map_of_mem hrecord
      obtain ⟨input, hinput, hresult⟩ := List.mem_map.mp hok
      exact ⟨input.2, hmem hinput, .inr (eq_execute_of_transform hresult)⟩
    · rw [run, hrun] at h
      cases h
  · rw [run, runInputs_of_ne_abort hpolicy] at h
    obtain rfl := Except.ok.inj h
    obtain ⟨input, hinput, hemitted⟩ := List.mem_filterMap.mp hrecord
    exact ⟨input.2, hmem hinput, eq_of_emitted? hemitted⟩

/-- An execution, whether it succeeds or fails, keeps the fields of its record in front and in their
order, and touches no field that the program does not assign. So if the header does not declare what
is written, no field of a record that goes out of a run is missing among the fields to write: these
are the fields of the input, each once and in their order, with others behind them. -/
theorem execute_keeps_fields (p : Program) :
    (∀ record : Record, record.names <+: (p.execute record).record.names ∧
      ∀ name, name ∉ p.assignedFields →
        (p.execute record).record.get name = record.get name ∧
        (p.execute record).record.contains name = record.contains name) ∧
    (p.config.outputFields = none → ∀ header : List String,
      (p.fields header).Nodup ∧ header.eraseDups <+: p.fields header ∧
      ∀ policy records out, (∀ record ∈ records, ∀ name ∈ record.names, name ∈ header) →
        (p.run policy records).result = .ok out →
        ∀ record ∈ out.records, ∀ name ∈ record.names, name ∈ p.fields header) := by
  constructor
  · intro record
    constructor
    · rw [(p.execute_isTraced record).record_eq]
      exact record.names_prefix_setAll _
    · intro name hname
      rw [Record.contains_eq_isSome, Record.contains_eq_isSome, Record.get, Record.get,
        get?_execute hname]
      exact ⟨rfl, rfl⟩
  · intro houtput header
    have hfields : p.fields header = distinct (header ++ p.assignedFields) := by
      rw [fields, houtput]
    rw [hfields]
    refine ⟨nodup_distinct _, ?_, ?_⟩
    · rw [distinct_eq_eraseDups, List.eraseDups_append]
      exact List.prefix_append _ _
    · intro policy records out hheader hrun record hrecord name hname
      rw [mem_distinct, List.mem_append]
      obtain ⟨input, hinput, rfl | rfl⟩ := exists_input_of_run hrun hrecord
      · exact .inl (hheader record hinput name hname)
      · exact (mem_names_execute hname).imp (hheader input hinput name) id

end Program

end RecordScript

namespace RecordScript.Program.Fields

/-- A library with a program of one rule. -/
def shelf : Library :=
  (SourceTable.ofList [("more", "if x == '1' then late = +'a' else skip = 'k' fi")]).toLibrary

/-- A program that assigns a field and then imports the rule. -/
def source : Source := ⟨⟨"main"⟩, "note = x @@import('more')"⟩

/-- The program as it is loaded. -/
def loaded : Program :=
  ⟨{}, [.assign ⟨"main", 1, 1⟩ "note" (.field ⟨"main", 1, 8⟩ "x"),
    .rule
      [.mk (.comparison ⟨"more", 1, 4⟩ .eq (.field ⟨"more", 1, 4⟩ "x")
          (.literal ⟨"more", 1, 9⟩ (.string "1")))
        [.assign ⟨"more", 1, 18⟩ "late"
          (.unary ⟨"more", 1, 25⟩ .plus (.literal ⟨"more", 1, 26⟩ (.string "a")))]]
      (some [.assign ⟨"more", 1, 35⟩ "skip" (.literal ⟨"more", 1, 42⟩ (.string "k"))])]⟩

/-- The fields of the input, one of them twice. -/
def header : List String := ["x", "k", "x"]

/-- A record that fails at the sign, when its first field has been copied. -/
def failing : Record := ⟨[("x", "1"), ("k", "v")], by decide⟩

/-- A record that does not fail. -/
def passing : Record := ⟨[("x", "2")], by decide⟩

/-- What a run gives for both records if it keeps the ones that fail. -/
def output : RunOutput :=
  ⟨[failing, ⟨[("x", "2"), ("note", "2"), ("skip", "k")], by decide⟩],
    [⟨0, failing, ⟨.type (.mismatch .number (.string "a")), ⟨"more", 1, 25⟩⟩⟩]⟩

theorem ofSource_source : ofSource shelf {} source = .ok loaded := by
  have hread : Expansion.readSource source = .ok ⟨[],
      [.assign ⟨"main", 1, 1⟩ "note" (.field ⟨"main", 1, 8⟩ "x"), .directive
        ⟨"import", [.literal ⟨"main", 1, 19⟩ (.string "more")], true, ⟨"main", 1, 10⟩⟩]⟩ := by
    decide +kernel
  have hexpand : Expansion.expand shelf source.id
      [.assign ⟨"main", 1, 1⟩ "note" (.field ⟨"main", 1, 8⟩ "x"), .directive
        ⟨"import", [.literal ⟨"main", 1, 19⟩ (.string "more")], true, ⟨"main", 1, 10⟩⟩] =
      .ok loaded.steps := by
    decide +kernel
  have hprepare : prepareSteps {} loaded.steps = .ok loaded.steps := by
    unfold loaded
    cbv
  exact ofSource_eq_ok.mpr ⟨_, _, hread, by rfl, hexpand, hprepare⟩

theorem execute_failing : loaded.execute failing =
    ⟨⟨[("x", "1"), ("k", "v"), ("note", "1")], by decide⟩, [("note", "1")], [],
      some ⟨.type (.mismatch .number (.string "a")), ⟨"more", 1, 25⟩⟩⟩ := by
  rfl

theorem run_keep : (loaded.run .keep [failing, passing]).result = .ok output := by
  rfl

/-- A program that imports a rule fails on a record when it has written a field. The fields of the
record stand where they stood, what is not assigned is as it was, and all that goes out is listed.
-/
theorem execute_keeps_fields_imported :
    ofSource shelf {} source = .ok loaded ∧ loaded.config.outputFields = none ∧
    ((loaded.execute failing).error?.isSome ∧
      (loaded.execute failing).record.names = ["x", "k", "note"] ∧
      failing.names <+: (loaded.execute failing).record.names ∧
      (loaded.execute failing).record.get "k" = "v") ∧
    (∀ record ∈ [failing, passing], ∀ name ∈ record.names, name ∈ header) ∧
    (loaded.run .keep [failing, passing]).result = .ok output ∧
    loaded.fields header = ["x", "k", "note", "late", "skip"] ∧
    ["x", "k"] <+: loaded.fields header ∧
    ∀ record ∈ output.records, ∀ name ∈ record.names, name ∈ loaded.fields header := by
  obtain ⟨hexecute, hrun⟩ := execute_keeps_fields loaded
  obtain ⟨hnames, hothers⟩ := hexecute failing
  obtain ⟨-, hheader, hlisted⟩ := hrun rfl header
  have hinput : ∀ record ∈ [failing, passing], ∀ name ∈ record.names, name ∈ header := by decide
  refine ⟨ofSource_source, rfl, ⟨?_, ?_, hnames, (hothers "k" (by decide)).1⟩, hinput, run_keep,
    by decide, hheader, hlisted .keep _ _ hinput run_keep⟩
  · rw [execute_failing]
    rfl
  · rw [execute_failing]
    rfl

end RecordScript.Program.Fields
