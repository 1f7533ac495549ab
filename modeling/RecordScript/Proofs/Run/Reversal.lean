import Mathlib.Data.List.Basic
import RecordScript.Pattern.PlaceEngine
import RecordScript.Proofs.Execution.Agreement
import RecordScript.Proofs.Run.Policy

/-!
# Reversed runs

A program whose header asks for the reversed order runs on a list as the program without this
setting runs on the reversed list: the same records go out, the same messages are logged, and the
same failures end the run or are kept. Only the places that failures show are counted from the other
end, since they always refer to the input as it came in.
-/

namespace RecordScript

variable [RegexEngine]

/-! ### Failures with other places -/

/-- The failure with another place in the input. -/
def RecordError.reindex (f : Nat → Nat) (e : RecordError) : RecordError :=
  { e with index := f e.index }

/-- The output with other places of its failures. -/
def RunOutput.reindex (f : Nat → Nat) (out : RunOutput) : RunOutput :=
  { out with errors := out.errors.map (RecordError.reindex f) }

/-- What a run gives, with other places of its failures. -/
def Outcome.reindex (f : Nat → Nat) (x : Outcome RecordError RunOutput) :
    Outcome RecordError RunOutput :=
  ⟨x.log, (x.result.map (RunOutput.reindex f)).mapError (RecordError.reindex f)⟩

/-- A failure that a run shows: it has ended the run, or was tolerated. -/
def Outcome.Reports (x : Outcome RecordError RunOutput) (e : RecordError) : Prop :=
  x.result = .error e ∨ ∃ out, x.result = .ok out ∧ e ∈ out.errors

namespace Program

variable {p q : Program} {policy : ErrorPolicy}

/-! ### The order of the input -/

omit [RegexEngine] in
/-- The inputs of a list from its end are those of the reversed list with mirrored places. -/
theorem reverse_zip_range (records : List Record) :
    ((List.range records.length).zip records).reverse =
      ((List.range records.length).zip records.reverse).map
        (Prod.map (records.length - 1 - ·) id) := by
  have hrange : (List.range records.length).reverse =
      (List.range records.length).map (records.length - 1 - ·) := by
    rw [List.range_eq_range', List.reverse_range', List.range_eq_range']
    simp only [Nat.zero_add]
  have hlength : (List.range records.length).length = records.length := List.length_range
  rw [List.zip_eq_zipWith, List.reverse_zipWith hlength, hrange, ← List.zip_eq_zipWith,
    List.zip_map_left]

/-- The setting decides the order in which records are taken and nothing else. -/
theorem transform_eq (hsteps : p.steps = q.steps)
    (hconfig : p.config = { q.config with reverse := true }) (record : Record) :
    p.transform record = q.transform record := by
  have hcall : ∀ (f : Builtin) (r : Record), f.call p.config r = f.call q.config r := by
    intro f r
    rw [hconfig]
    cases f <;> rfl
  have hmatch : p.config.isMatch = q.config.isMatch := by
    rw [hconfig]
    rfl
  have halike : (p.execute record).Alike Eq (q.execute record) := by
    refine execute_alike hsteps ?_ ?_ rfl
    · rintro r _ field text rfl
      rfl
    · rintro x - r _ rfl
      cases x with
      | field pos name => exact rfl
      | call pos function args => exact fun f _ => hcall f r
      | pattern pos subject needle => exact hmatch
      | _ => exact trivial
  obtain ⟨⟨-, hlog, herror⟩, hrecord⟩ := halike
  rw [transform, transform, hlog, herror, hrecord]

/-! ### Runs with other places -/

theorem process_map (h : ∀ record, p.transform record = q.transform record) (f : Nat → Nat)
    (input : Nat × Record) :
    p.process (Prod.map f id input) = (q.process input).mapError (RecordError.reindex f) := by
  rw [process, process, Prod.map_snd, id, h, Outcome.mapError, Outcome.mapError, Outcome.mapError]
  cases (q.transform input.2).result <;> rfl

/-- Places go along with the failures of a run, whatever its policy. -/
theorem accept_reindex (f : Nat → Nat) (result : Except RecordError Record)
    (rest : Outcome RecordError RunOutput) :
    accept policy (result.mapError (RecordError.reindex f)) (rest.reindex f) =
      (accept policy result rest).reindex f := by
  obtain ⟨log, rest⟩ := rest
  cases result with
  | ok record => cases rest <;> rfl
  | error e =>
    cases policy with
    | abort => rfl -- The rest of the run does not matter.
    | skip | keep => cases rest <;> rfl

theorem runInputs_map (h : ∀ record, p.transform record = q.transform record) (f : Nat → Nat)
    (inputs : List (Nat × Record)) :
    p.runInputs policy (inputs.map (Prod.map f id)) = (q.runInputs policy inputs).reindex f := by
  induction inputs with
  | nil => rfl
  | cons input inputs ih =>
    rw [List.map_cons, runInputs, runInputs, process_map h, ih]
    change (accept policy ((q.process input).result.mapError (RecordError.reindex f))
      ((q.runInputs policy inputs).reindex f)).after _ = _
    rw [accept_reindex]
    rfl

/-- A failure that a run shows is the failure of one of its inputs. -/
theorem exists_input_of_reports {records : List Record} {e : RecordError}
    (h : (p.run policy records).Reports e) :
    ∃ input ∈ p.ordered records, p.failure? input = some e := by
  rw [run] at h
  -- Only an aborted run ends with a failure; the others keep their failures in the output.
  by_cases hpolicy : policy = .abort
  · subst hpolicy
    rcases runInputs_abort (p := p) (p.ordered records) with
      ⟨made, -, hrun⟩ | ⟨before, input, after, e', heq, -, hinput, hrun⟩
    · rw [hrun] at h
      rcases h with h | ⟨out, h, hmem⟩
      · cases h
      · cases h
        cases hmem
    · rw [hrun] at h
      rcases h with h | ⟨out, h, -⟩
      · cases h
        exact ⟨input, heq ▸ by simp, hinput⟩
      · cases h
  · rw [runInputs_of_ne_abort hpolicy] at h
    rcases h with h | ⟨out, h, hmem⟩
    · cases h
    · cases h
      exact List.mem_filterMap.mp hmem

/-- A failure that a run shows stands with its record, as it came in, at its place in the input. -/
theorem getElem?_of_reports {records : List Record} {e : RecordError}
    (h : (p.run policy records).Reports e) : records[e.index]? = some e.record := by
  obtain ⟨⟨i, r⟩, hmem, hinput⟩ := exists_input_of_reports h
  rw [failure?] at hinput
  split at hinput
  · cases hinput
  · cases hinput
    exact mem_ordered.mp hmem

/-! ### Reversal -/

/-- The reversed order is the order of the reversed list. Of two programs with the same steps, and
with the same configuration but for this setting, the one that has it runs on a list as the other
one runs on the reversed list, under any policy: the same records go out in the same order, the same
messages are logged, and the same failures are kept or end the run. A failure at the place `i` of
the reversed list is shown at `n - 1 - i`, which is where its record stands in the input. -/
theorem run_eq_run_reverse (p q : Program) (hsteps : p.steps = q.steps)
    (hconfig : p.config = { q.config with reverse := true }) (hreverse : q.config.reverse = false)
    (policy : ErrorPolicy) (records : List Record) :
    p.run policy records =
      (q.run policy records.reverse).reindex (records.length - 1 - ·) ∧
    (∀ e, (q.run policy records.reverse).Reports e → e.index < records.length) ∧
    ∀ e, (p.run policy records).Reports e → records[e.index]? = some e.record := by
  have hp : p.ordered records = ((List.range records.length).zip records).reverse := by
    rw [ordered, hconfig]
    rfl
  have hq : q.ordered records.reverse = (List.range records.length).zip records.reverse := by
    rw [ordered, hreverse, List.length_reverse]
    rfl
  refine ⟨?_, ?_, fun e => getElem?_of_reports⟩
  · rw [run, run, hp, hq, reverse_zip_range]
    exact runInputs_map (transform_eq hsteps hconfig) _ _
  · intro e he
    have hplace := getElem?_of_reports he
    have hlt := (List.getElem?_eq_some_iff.mp hplace).1
    rwa [List.length_reverse] at hlt

end Program

end RecordScript

namespace RecordScript.Program.Reversal

/-- A program that logs a field, and fails on every record in which the field is not empty. -/
def forward : Program :=
  ⟨{}, [.call ⟨"main", 1, 1⟩ "log" [.field ⟨"main", 1, 5⟩ "v"],
    .rule [.mk (.comparison ⟨"main", 1, 12⟩ .ne (.field ⟨"main", 1, 12⟩ "v")
        (.literal ⟨"main", 1, 17⟩ (.string "")))
      [.assign ⟨"main", 1, 25⟩ "v" (.unary ⟨"main", 1, 29⟩ .not (.field ⟨"main", 1, 30⟩ "v"))]]
      none]⟩

/-- The program with the reversed order. -/
def backward : Program := ⟨{ reverse := true }, forward.steps⟩

/-- A record with the given text in the field. -/
def record (text : String) : Record := ⟨[("v", text)], by simp [FieldList.names]⟩

/-- The failure of a record at a place of the input. -/
def failure (index : Nat) (text : String) : RecordError :=
  ⟨index, record text, ⟨.type (.fieldUse "v" .boolean), ⟨"main", 1, 29⟩⟩⟩

/-- Of four records the first and the third fail. In the reversed order the third one comes first
and ends the run, or is the first failure to be kept. -/
theorem run_eq_run_reverse_failures :
    backward.steps = forward.steps ∧ backward.config = { forward.config with reverse := true } ∧
    forward.config.reverse = false ∧
    backward.run .skip [record "a", record "", record "b", record ""] =
      ⟨["", "b", "", "a"], .ok ⟨[record "", record ""], [failure 2 "b", failure 0 "a"]⟩⟩ ∧
    forward.run .skip [record "", record "b", record "", record "a"] =
      ⟨["", "b", "", "a"], .ok ⟨[record "", record ""], [failure 1 "b", failure 3 "a"]⟩⟩ ∧
    backward.run .skip [record "a", record "", record "b", record ""] =
      (forward.run .skip [record "", record "b", record "", record "a"]).reindex (4 - 1 - ·) ∧
    backward.run .abort [record "a", record "", record "b", record ""] =
      ⟨["", "b"], .error (failure 2 "b")⟩ ∧
    backward.run .abort [record "a", record "", record "b", record ""] =
      (forward.run .abort [record "", record "b", record "", record "a"]).reindex (4 - 1 - ·) := by
  have hruns := fun policy => (run_eq_run_reverse backward forward rfl rfl rfl policy
    [record "a", record "", record "b", record ""]).1
  refine ⟨rfl, rfl, rfl, ?_, ?_, hruns .skip, ?_, hruns .abort⟩
  · rfl
  · rfl
  · rfl

end RecordScript.Program.Reversal
