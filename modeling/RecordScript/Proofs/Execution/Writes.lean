import Mathlib.Data.List.Infix
import RecordScript.Execution
import RecordScript.Proofs.Syntax.Tree

/-!
# Writes of executions

An execution changes its record by the writes that it lists and by nothing else, whether it succeeds
or fails, and it writes only into fields that its steps assign. A write keeps the fields that are
there in their places and touches no other text, so an execution loses no field and changes none
that its steps do not assign.
-/

namespace RecordScript

/-! ### Writes into records -/

namespace FieldList

/-- A write leaves the names as they are, or puts a new one behind them. -/
theorem names_write (name text : String) (fields : FieldList) :
    names (write name text fields) =
      if name ∈ names fields then names fields else names fields ++ [name] := by
  induction fields with
  | nil => rfl
  | cons field rest ih =>
    obtain ⟨n, t⟩ := field
    simp only [names] at ih
    by_cases h : n = name
    · simp [names, write, h]
    · simp only [names, write, h, if_false, List.map_cons, ih, List.mem_cons, Ne.symm h, false_or]
      by_cases hrest : name ∈ rest.map Prod.fst <;> simp [hrest]

theorem lookup_write (name text x : String) (fields : FieldList) :
    (write name text fields).lookup x = if x = name then some text else fields.lookup x := by
  induction fields with
  | nil =>
    rw [write, List.lookup_cons]
    by_cases hx : x = name
    · simp [hx]
    · have hne : (x == name) = false := beq_false_of_ne hx
      simp [hx, hne]
  | cons field rest ih =>
    obtain ⟨n, t⟩ := field
    by_cases h : n = name
    · subst h
      by_cases hx : x = n
      · simp [write, hx]
      · have hne : (x == n) = false := beq_false_of_ne hx
        simp [write, List.lookup_cons, hx, hne]
    · by_cases hx : x = n
      · subst hx
        simp [write, h]
      · have hne : (x == n) = false := beq_false_of_ne hx
        simp [write, h, List.lookup_cons, hne, ih]

end FieldList

namespace Record

theorem contains_eq_isSome (r : Record) (name : String) : r.contains name = (r.get? name).isSome := by
  rw [Bool.eq_iff_iff, contains, names, FieldList.names, get?, List.contains_iff_mem,
    List.lookup_isSome_iff, List.mem_map]
  simp

@[simp]
theorem get?_set (r : Record) (name text x : String) :
    (r.set name text).get? x = if x = name then some text else r.get? x :=
  FieldList.lookup_write name text x r.fields

theorem get_set (r : Record) (name text x : String) :
    (r.set name text).get x = if x = name then text else r.get x := by
  rw [get, get?_set, get]
  split <;> rfl

theorem names_prefix_set (r : Record) (name text : String) : r.names <+: (r.set name text).names := by
  rw [names, names, set, FieldList.names_write]
  split
  · exact List.prefix_rfl
  · exact List.prefix_append _ _

/-- The record after writes, one after another. -/
def setAll (r : Record) (writes : List (String × String)) : Record :=
  writes.foldl (fun r write => r.set write.1 write.2) r

theorem setAll_append (r : Record) (writes others : List (String × String)) :
    r.setAll (writes ++ others) = (r.setAll writes).setAll others :=
  List.foldl_append

/-- Writes keep the fields that are there, in their order, in front. -/
theorem names_prefix_setAll (r : Record) (writes : List (String × String)) :
    r.names <+: (r.setAll writes).names := by
  induction writes generalizing r with
  | nil => exact List.prefix_rfl
  | cons write writes ih => exact (r.names_prefix_set write.1 write.2).trans (ih _)

/-- Writes into other fields do not touch a field. -/
theorem get?_setAll {r : Record} {name : String} {writes : List (String × String)}
    (h : ∀ w ∈ writes, w.1 ≠ name) : (r.setAll writes).get? name = r.get? name := by
  induction writes generalizing r with
  | nil => rfl
  | cons write writes ih =>
    obtain ⟨hwrite, hwrites⟩ := List.forall_mem_cons.mp h
    calc ((r.set write.1 write.2).setAll writes).get? name
        = (r.set write.1 write.2).get? name := ih hwrites
      _ = r.get? name := by rw [get?_set, if_neg hwrite.symm]

theorem mem_names_set {r : Record} {name text x : String} :
    x ∈ (r.set name text).names ↔ x ∈ r.names ∨ x = name :=
  FieldList.mem_names_write

/-- What stands in a record after writes stood there before or has been written. -/
theorem mem_names_setAll {r : Record} {name : String} {writes : List (String × String)} :
    name ∈ (r.setAll writes).names ↔ name ∈ r.names ∨ name ∈ writes.map Prod.fst := by
  induction writes generalizing r with
  | nil => simp [setAll]
  | cons write writes ih =>
    change name ∈ ((r.set write.1 write.2).setAll writes).names ↔ _
    rw [ih, mem_names_set, List.map_cons, List.mem_cons, or_assoc]

end Record

variable [RegexEngine]

/-! ### The writes of steps -/

namespace Execution

/-- The execution leaves what its writes make of the record, and writes only into the given fields.
-/
structure IsTraced (x : Execution) (record : Record) (fields : List String) : Prop where
  record_eq : x.record = record.setAll x.writes
  mem_fields : ∀ w ∈ x.writes, w.1 ∈ fields

variable {x : Execution} {record : Record} {fields : List String}

theorem isTraced_idle (record : Record) (fields : List String) :
    (idle record).IsTraced record fields := ⟨rfl, by simp [idle]⟩

theorem isTraced_write (record : Record) (field text : String) :
    (write record field text).IsTraced record [field] := ⟨rfl, by simp [write]⟩

theorem IsTraced.mono (h : x.IsTraced record fields) {others : List String}
    (hsubset : fields ⊆ others) : x.IsTraced record others :=
  ⟨h.record_eq, fun w hw => hsubset (h.mem_fields w hw)⟩

theorem IsTraced.andThen {next : Record → Execution} (hx : x.IsTraced record fields)
    (hnext : ∀ record, (next record).IsTraced record fields) :
    (x.andThen next).IsTraced record fields := by
  rw [Execution.andThen]
  split
  · -- after a failure nothing more is written
    exact hx
  · have hy := hnext x.record
    refine ⟨?_, fun w hw => ?_⟩
    · rw [Record.setAll_append, ← hx.record_eq, ← hy.record_eq]
    · rcases List.mem_append.mp hw with hw | hw
      · exact hx.mem_fields w hw
      · exact hy.mem_fields w hw

theorem isTraced_ofOutcome {α : Type} {outcome : Outcome EvalError α} {next : α → Execution}
    (hnext : ∀ a, (next a).IsTraced record fields) :
    (ofOutcome record outcome next).IsTraced record fields := by
  rw [ofOutcome]
  split
  · rename_i a _
    exact ⟨(hnext a).record_eq, (hnext a).mem_fields⟩
  · exact ⟨rfl, by simp⟩

end Execution

section Steps

variable {config : Config}

theorem armsAssigned_eq (arms : List Arm) :
    armsAssigned arms = arms.flatMap fun a => stepsAssigned a.body := by
  induction arms with
  | nil => rfl
  | cons a arms ih =>
    obtain ⟨condition, body⟩ := a
    rw [armsAssigned, ih, List.flatMap_cons]
    rfl

theorem executeSteps_isTraced_of_forall {ss : List Step}
    (h : ∀ s ∈ ss, ∀ record, (s.execute config record).IsTraced record s.assigned)
    (record : Record) : (executeSteps config ss record).IsTraced record (stepsAssigned ss) := by
  induction ss generalizing record with
  | nil => exact Execution.isTraced_idle record _
  | cons s ss ih =>
    obtain ⟨hs, hss⟩ := List.forall_mem_cons.mp h
    rw [executeSteps, stepsAssigned]
    exact ((hs record).mono (List.subset_append_left _ _)).andThen fun record' =>
      (ih hss record').mono (List.subset_append_right _ _)

/-- One of the arms runs its body, or `otherwise` runs. -/
theorem executeArms_isTraced {arms : List Arm} {otherwise : Record → Execution}
    {fields : List String}
    (hbody : ∀ a ∈ arms, ∀ record, (executeSteps config a.body record).IsTraced record fields)
    (hotherwise : ∀ record, (otherwise record).IsTraced record fields) (record : Record) :
    (executeArms config arms otherwise record).IsTraced record fields := by
  induction arms with
  | nil => exact hotherwise record
  | cons a arms ih =>
    obtain ⟨hbody, hbodies⟩ := List.forall_mem_cons.mp hbody
    obtain ⟨condition, body⟩ := a
    rw [executeArms]
    refine Execution.isTraced_ofOutcome fun holds => ?_
    cases holds with
    | true => exact hbody record
    | false => exact ih hbodies

/-- A step changes its record by its writes, which go into fields that it assigns. -/
theorem Step.execute_isTraced (s : Step) (record : Record) :
    (s.execute config record).IsTraced record s.assigned := by
  induction s generalizing record with
  | assign pos field value =>
    exact Execution.isTraced_ofOutcome fun text => Execution.isTraced_write record field text
  | call pos function args =>
    exact Execution.isTraced_ofOutcome fun _ => Execution.isTraced_idle record _
  | rule arms otherwise iharms ihother =>
    have harms : ∀ a ∈ arms, stepsAssigned a.body ⊆ (Step.rule arms otherwise).assigned := by
      intro a ha name hname
      rw [Step.assigned.eq_def]
      refine List.mem_append_left _ ?_
      rw [armsAssigned_eq, List.mem_flatMap]
      exact ⟨a, ha, hname⟩
    rw [Step.execute]
    refine executeArms_isTraced (fun a ha record => ?_) (fun record => ?_) record
    · exact (executeSteps_isTraced_of_forall (iharms a ha) record).mono (harms a ha)
    · cases otherwise with
      | none => exact Execution.isTraced_idle record _
      | some body =>
        exact (executeSteps_isTraced_of_forall (ihother body rfl) record).mono
          (List.subset_append_right _ _)

/-- Steps change their record by their writes, which go into fields that they assign. -/
theorem executeSteps_isTraced (ss : List Step) (record : Record) :
    (executeSteps config ss record).IsTraced record (stepsAssigned ss) :=
  executeSteps_isTraced_of_forall (fun s _ => s.execute_isTraced) record

end Steps

end RecordScript
