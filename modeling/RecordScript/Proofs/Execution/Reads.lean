import RecordScript.Pattern.PlaceEngine
import RecordScript.Proofs.Execution.Agreement
import RecordScript.Proofs.Loading.Validity
import RecordScript.Proofs.Syntax.Equality

/-!
# What an execution depends on

A program that does not show whole records sees of a record only the fields that its expressions
read, by the texts that reading them gives. Two records with the same texts there cannot be told
apart by it: a write goes into both of them, so they stay alike through all steps, whatever these
read later. A bare pattern reads the default field, which stands in the steps of a loaded program.
-/

namespace RecordScript

theorem Builtin.name_of_ofName? {name : String} {f : Builtin} (h : ofName? name = some f) :
    f.name = name := by
  simpa using List.find?_some h

variable [RegexEngine]

namespace Program

open Execution (SameEffects)

/-- Some expression of the program reads the field. -/
def Reads (p : Program) (name : String) : Prop := ∃ pos, .field pos name ∈ p.expressions

/-- Some expression of the program shows the whole record. -/
def ShowsRecord (p : Program) : Prop := ∃ pos args, .call pos "record_str" args ∈ p.expressions

/-- The records have the same texts in all fields that the program reads. -/
def Agree (p : Program) (r s : Record) : Prop := ∀ name, p.Reads name → r.get name = s.get name

variable {p : Program}

/-- Records that agree still agree when the same text has been written into both. -/
theorem Agree.set {r s : Record} (h : p.Agree r s) (field text : String) :
    p.Agree (r.set field text) (s.set field text) := by
  intro name hname
  rw [Record.get_set, Record.get_set, h name hname]

/-- Only the function that shows records looks at more of a record than its operands. -/
theorem call_eq_of_ne {f : Builtin} (h : f ≠ .recordText) (config : Config) (r s : Record) :
    f.call config r = f.call config s := by
  cases f with
  | recordText => exact absurd rfl h
  | _ => rfl

theorem seesSame_of_agree (hshow : ¬ p.ShowsRecord) {x : Expr} (hx : x ∈ p.expressions)
    {r s : Record} (h : p.Agree r s) : Expr.SeesSame p.config p.config r s x := by
  cases x with
  | field pos name => exact h name ⟨pos, hx⟩
  | call pos function args =>
    intro f hf
    refine call_eq_of_ne ?_ _ r s
    rintro rfl
    obtain rfl : "record_str" = function := Builtin.name_of_ofName? hf
    exact hshow ⟨pos, args, hx⟩
  | pattern pos subject needle => exact rfl
  | _ => exact trivial

theorem execute_alike_of_agree (hshow : ¬ p.ShowsRecord) {r s : Record} (h : p.Agree r s) :
    (p.execute r).Alike p.Agree (p.execute s) :=
  execute_alike rfl (fun _ _ field text hrs => hrs.set field text)
    (fun _ hx _ _ hrs => seesSame_of_agree hshow hx hrs) h

/-- A program that does not show whole records depends on the fields that it reads and on nothing
else. On two records with the same texts in these fields it writes the same texts into the same
fields, logs the same messages, and succeeds on both or fails on both with the same error at the
same place. So a field that it does not read has no influence, whether it is there or what text it
has, and a field that is missing is as good as an empty one. -/
theorem execute_depends_on_reads (p : Program) (hshow : ¬ p.ShowsRecord) :
    (∀ r s, (∀ name, p.Reads name → r.get name = s.get name) →
      (p.execute r).SameEffects (p.execute s)) ∧
    (∀ r name text, ¬ p.Reads name → (p.execute (r.set name text)).SameEffects (p.execute r)) ∧
    ∀ r name, r.contains name = false →
      (p.execute (r.set name "")).SameEffects (p.execute r) := by
  refine ⟨?_, ?_, ?_⟩
  · intro r s h
    exact (execute_alike_of_agree hshow h).effects
  · intro r name text hname
    have hagree : p.Agree (r.set name text) r := by
      intro x hx
      have hne : x ≠ name := by
        rintro rfl
        exact hname hx
      rw [Record.get_set, if_neg hne]
    exact (execute_alike_of_agree hshow hagree).effects
  · intro r name hname
    have hempty : r.get name = "" := by
      rw [Record.contains_eq_isSome, Option.isSome_eq_false_iff, Option.isNone_iff_eq_none] at hname
      rw [Record.get, hname]
      rfl
    have hagree : p.Agree (r.set name "") r := by
      intro x _
      rw [Record.get_set]
      split
      · rename_i hx
        rw [hx, hempty]
      · rfl
    exact (execute_alike_of_agree hshow hagree).effects

end Program

end RecordScript

namespace RecordScript.Program.Reads

/-- A program with a bare pattern, whose second rule reads what the first one has written. -/
def source : Source :=
  ⟨⟨"main"⟩, "@default_field('d') if 'a' then k = x fi log(k) if k == 'v' then k = !y fi"⟩

/-- The program as it is loaded. -/
def loaded : Program :=
  ⟨{ defaultField := some "d" },
    [.rule [.mk (.pattern ⟨"main", 1, 24⟩ (.field ⟨"main", 1, 24⟩ "d")
        (.literal ⟨"main", 1, 24⟩ (.string "a")))
      [.assign ⟨"main", 1, 33⟩ "k" (.field ⟨"main", 1, 37⟩ "x")]] none,
    .call ⟨"main", 1, 42⟩ "log" [.field ⟨"main", 1, 46⟩ "k"],
    .rule [.mk (.comparison ⟨"main", 1, 52⟩ .eq (.field ⟨"main", 1, 52⟩ "k")
        (.literal ⟨"main", 1, 57⟩ (.string "v")))
      [.assign ⟨"main", 1, 66⟩ "k"
        (.unary ⟨"main", 1, 70⟩ .not (.field ⟨"main", 1, 71⟩ "y"))]] none]⟩

/-- A record with a field that the program does not read, and without the field that it writes. -/
def plain : Record := ⟨[("d", "cab"), ("x", "v"), ("z", "1")], by decide⟩

/-- A record with the same texts where the program reads, in another order and beside other fields.
-/
def other : Record := ⟨[("k", ""), ("x", "v"), ("y", ""), ("d", "cab"), ("w", "2")], by decide⟩

theorem readSource_source : Expansion.readSource source = .ok
    ⟨[⟨"default_field", [.literal ⟨"main", 1, 16⟩ (.string "d")], false, ⟨"main", 1, 1⟩⟩],
      [.rule [.mk (.barePattern ⟨"main", 1, 24⟩ (.literal ⟨"main", 1, 24⟩ (.string "a")))
          [.assign ⟨"main", 1, 33⟩ "k" (.field ⟨"main", 1, 37⟩ "x")]] none,
        .call ⟨"main", 1, 42⟩ "log" [.field ⟨"main", 1, 46⟩ "k"],
        .rule [.mk (.comparison ⟨"main", 1, 52⟩ .eq (.field ⟨"main", 1, 52⟩ "k")
            (.literal ⟨"main", 1, 57⟩ (.string "v")))
          [.assign ⟨"main", 1, 66⟩ "k"
            (.unary ⟨"main", 1, 70⟩ .not (.field ⟨"main", 1, 71⟩ "y"))]] none]⟩ := by
  decide +kernel

theorem ofSource_source : ofSource SourceTable.empty.toLibrary {} source = .ok loaded := by
  refine ofSource_eq_ok.mpr ⟨_, _, readSource_source, by rfl, by rfl, ?_⟩
  unfold loaded
  cbv

theorem not_showsRecord_loaded : ¬ loaded.ShowsRecord := by
  rintro ⟨pos, args, h⟩
  simp [expressions, loaded, Step.blockExpressions, Step.expressions, Step.armExpressions,
    ExprOf.nodes, ExprOf.nodesOfAll] at h

theorem reads_loaded {name : String} (h : loaded.Reads name) : name ∈ ["d", "x", "k", "y"] := by
  obtain ⟨pos, h⟩ := h
  simp [expressions, loaded, Step.blockExpressions, Step.expressions, Step.armExpressions,
    ExprOf.nodes, ExprOf.nodesOfAll] at h
  grind

/-- The program fails on a record when it has copied a field and logged it. It does the same on a
record that has other fields beside those that are read, in another order, and an empty one in place
of a missing one. -/
theorem execute_depends_on_reads_loaded :
    ofSource SourceTable.empty.toLibrary {} source = .ok loaded ∧ ¬ loaded.ShowsRecord ∧
    (∀ name, loaded.Reads name → plain.get name = other.get name) ∧
    loaded.execute plain = ⟨plain.set "k" "v", [("k", "v")], ["v"],
      some ⟨.type (.fieldUse "y" .boolean), ⟨"main", 1, 70⟩⟩⟩ ∧
    (loaded.execute plain).SameEffects (loaded.execute other) ∧
    ((plain.contains "y" = false ∧ ¬ loaded.Reads "z") ∧
      (loaded.execute (plain.set "y" "")).SameEffects (loaded.execute plain) ∧
      (loaded.execute (plain.set "z" "0")).SameEffects (loaded.execute plain)) := by
  have hagree : ∀ name, loaded.Reads name → plain.get name = other.get name := by
    intro name hname
    have hall : ∀ name ∈ ["d", "x", "k", "y"], plain.get name = other.get name := by decide
    exact hall name (reads_loaded hname)
  have hz : ¬ loaded.Reads "z" := fun h => absurd (reads_loaded h) (by decide)
  obtain ⟨hsame, hunread, hmissing⟩ := execute_depends_on_reads loaded not_showsRecord_loaded
  refine ⟨ofSource_source, not_showsRecord_loaded, hagree, ?_, hsame plain other hagree,
    ⟨by decide, hz⟩, hmissing plain "y" (by decide), hunread plain "z" "0" hz⟩
  rfl

end RecordScript.Program.Reads
