import Mathlib
import RecordScript.Parallel
import RecordScript.Pattern.PlaceEngine
import RecordScript.Proofs.Run.Interleaving
import RecordScript.Proofs.Run.Policy

/-!
# Parallel runs agree with runs

What holds of a pool in every schedule: its records stay in the order of the run, and its log is an
interleaving of what its records have logged so far. Every schedule ends, and it can always be
brought to an answer. The answers are those of the run that takes one record after another, up to
the choice among the failures where none is tolerated.
-/

namespace RecordScript

variable [RegexEngine] {p : Program}

/-- What the record of a task has logged so far. -/
def Task.logged (p : Program) (t : Task) : List String :=
  match t.phase with
  | .waiting => []
  | .working n => (p.process t.input).log.take n
  | .done => (p.process t.input).log

/-- How much is left to do for a task. -/
def Task.cost (p : Program) (t : Task) : Nat :=
  match t.phase with
  | .waiting => (p.process t.input).log.length + 2
  | .working n => (p.process t.input).log.length - n + 1
  | .done => 0

namespace Pool

/-- How much is left to do for a pool. -/
def cost (p : Program) (pool : Pool) : Nat := (pool.tasks.map (Task.cost p)).sum

/-- What holds of a pool on its way, for the given records in the order of the run. -/
structure IsUnderWay (p : Program) (inputs : List (Nat × Record)) (pool : Pool) : Prop where
  inputs_eq : pool.tasks.map Task.input = inputs
  mixed : IsInterleaving (pool.tasks.map (Task.logged p)) pool.log
  bounded : ∀ t ∈ pool.tasks, ∀ n, t.phase = .working n → n ≤ (p.process t.input).log.length

/-! ### What schedules keep -/

theorem isUnderWay_start (inputs : List (Nat × Record)) : IsUnderWay p inputs (start inputs) where
  inputs_eq := by simp [start, Function.comp_def]
  mixed := by
    apply isInterleaving_nil
    simp [start, Task.logged]
  bounded := by
    intro t ht n hn
    obtain ⟨input, _, rfl⟩ := List.mem_map.mp ht
    cases hn

/-- Whatever a hand does next, the records stay in their order and the log stays an interleaving. -/
theorem Step.isUnderWay {inputs : List (Nat × Record)} {pool pool' : Pool} (step : Step p pool pool')
    (h : IsUnderWay p inputs pool) : IsUnderWay p inputs pool' := by
  obtain ⟨hinputs, hmixed, hbounded⟩ := h
  cases step with
  | @takeUp before after input log =>
    refine ⟨by simpa using hinputs, by simpa [Task.logged] using hmixed, ?_⟩
    rw [List.forall_mem_append, List.forall_mem_cons] at hbounded ⊢
    refine ⟨hbounded.1, ?_, hbounded.2.2⟩
    intro n hn
    obtain rfl : 0 = n := by simpa using hn
    exact Nat.zero_le _
  | @message before after input log k m next =>
    refine ⟨by simpa using hinputs, ?_, ?_⟩
    · -- the new message is the next one of its record, and the last one of the log
      have hlogged : Task.logged p ⟨input, .working (k + 1)⟩ =
          Task.logged p ⟨input, .working k⟩ ++ [m] := by
        simp [Task.logged, List.take_add_one, next]
      rw [List.map_append, List.map_cons] at hmixed ⊢
      rw [hlogged]
      exact hmixed.snoc m
    · rw [List.forall_mem_append, List.forall_mem_cons] at hbounded ⊢
      refine ⟨hbounded.1, ?_, hbounded.2.2⟩
      intro n hn
      obtain rfl : k + 1 = n := by simpa using hn
      exact (List.getElem?_eq_some_iff.mp next).1
  | @finish before after input log k last =>
    refine ⟨by simpa using hinputs, ?_, ?_⟩
    · have hlogged : Task.logged p ⟨input, .done⟩ = Task.logged p ⟨input, .working k⟩ := by
        simp [Task.logged, ← last]
      rw [List.map_append, List.map_cons] at hmixed ⊢
      rwa [hlogged]
    · rw [List.forall_mem_append, List.forall_mem_cons] at hbounded ⊢
      refine ⟨hbounded.1, ?_, hbounded.2.2⟩
      intro n hn
      cases hn

theorem Steps.isUnderWay {inputs : List (Nat × Record)} {pool pool' : Pool}
    (steps : Steps p pool pool') (h : IsUnderWay p inputs pool) : IsUnderWay p inputs pool' := by
  induction steps with
  | refl => exact h
  | tail _ step ih => exact step.isUnderWay ih

/-! ### Schedules end -/

theorem Step.cost_lt {pool pool' : Pool} (step : Step p pool pool') :
    pool'.cost p < pool.cost p := by
  cases step with
  | takeUp => simp [cost, Task.cost]
  | message next =>
    have hk := (List.getElem?_eq_some_iff.mp next).1
    simp [cost, Task.cost]
    omega
  | finish last => simp [cost, Task.cost]

/-- As long as a task is not done, some hand can do something. -/
theorem IsUnderWay.exists_step {inputs : List (Nat × Record)} {pool : Pool}
    (h : IsUnderWay p inputs pool) {t : Task} (ht : t ∈ pool.tasks) (hphase : t.phase ≠ .done) :
    ∃ pool', Step p pool pool' := by
  have hbounded := h.bounded t ht
  obtain ⟨tasks, log⟩ := pool
  obtain ⟨before, after, rfl⟩ := List.append_of_mem ht
  obtain ⟨input, phase⟩ := t
  cases phase with
  | waiting => exact ⟨_, .takeUp⟩
  | working n =>
    rcases Nat.lt_or_eq_of_le (hbounded n rfl) with hlt | heq
    · exact ⟨_, .message (List.getElem?_eq_getElem hlt)⟩
    · exact ⟨_, .finish heq.symm⟩
  | done => exact absurd rfl hphase

/-- Every schedule can go on until all tasks are done. -/
theorem IsUnderWay.exists_complete {inputs : List (Nat × Record)} {pool : Pool}
    (h : IsUnderWay p inputs pool) :
    ∃ pool', Steps p pool pool' ∧ ∀ t ∈ pool'.tasks, t.phase = .done := by
  -- each step leaves less to do
  induction hcost : pool.cost p using Nat.strongRecOn generalizing pool with
  | ind n ih =>
    by_cases hdone : ∀ t ∈ pool.tasks, t.phase = .done
    · exact ⟨pool, .refl, hdone⟩
    · push Not at hdone
      obtain ⟨t, ht, hphase⟩ := hdone
      obtain ⟨pool', step⟩ := h.exists_step ht hphase
      obtain ⟨last, steps, hlast⟩ := ih _ (hcost ▸ step.cost_lt) (step.isUnderWay h) rfl
      exact ⟨last, .head step steps, hlast⟩

end Pool

/-! ### The results of processed records -/

namespace Program

@[simp]
theorem process_log (input : Nat × Record) :
    (p.process input).log = (p.transform input.2).log := rfl

theorem process_result_eq_ok {input : Nat × Record} {record : Record} :
    (p.process input).result = .ok record ↔ (p.transform input.2).result = .ok record := by
  rw [process, Outcome.mapError]
  cases (p.transform input.2).result <;> simp [Except.mapError]

theorem process_result_eq_error {input : Nat × Record} {e : RecordError} :
    (p.process input).result = .error e ↔ p.failure? input = some e := by
  rw [process, Outcome.mapError, failure?]
  cases (p.transform input.2).result <;> simp [Except.mapError]

/-- All records have been made, whether or not their failures would hold them. -/
theorem map_process_result_eq_ok {inputs : List (Nat × Record)} {made : List Record} :
    inputs.map (fun input => (p.process input).result) = made.map .ok ↔
      inputs.map (fun input => (p.transform input.2).result) = made.map .ok := by
  induction inputs generalizing made with
  | nil => simp
  | cons input inputs ih =>
    cases made with
    | nil => simp
    | cons record made => simp [process_result_eq_ok, ih]

/-- None of the records has failed when all of them have been made. -/
theorem failure?_eq_none_of_map_eq {inputs : List (Nat × Record)} {made : List Record}
    (h : inputs.map (fun input => (p.transform input.2).result) = made.map .ok)
    {input : Nat × Record} (hinput : input ∈ inputs) : p.failure? input = none := by
  have hresult := List.mem_map_of_mem (f := fun input => (p.transform input.2).result) hinput
  rw [h] at hresult
  obtain ⟨record, -, hrecord⟩ := List.mem_map.mp hresult
  simp [failure?, ← hrecord]

/-- What the rest has logged has no part in the result. -/
theorem accept_result_congr {policy : ErrorPolicy} {result : Except RecordError Record}
    {rest rest' : Outcome RecordError RunOutput} (h : rest.result = rest'.result) :
    (accept policy result rest).result = (accept policy result rest').result := by
  cases result <;> cases policy <;> simp [accept, h]

end Program

/-- The accepted results of all tasks are the result of the run. -/
theorem result_foldr_accept (policy : ErrorPolicy) (tasks : List Task) :
    (tasks.foldr (fun t rest => Program.accept policy (p.process t.input).result rest)
      (.succeed {})).result = (p.runInputs policy (tasks.map Task.input)).result := by
  induction tasks with
  | nil => rfl
  | cons t tasks ih =>
    rw [List.foldr_cons, List.map_cons]
    exact Program.accept_result_congr ih

/-! ### Answers -/

namespace Pool

/-- A pool can answer when all tasks are done. -/
theorem exists_answers (policy : ErrorPolicy) {pool : Pool}
    (h : ∀ t ∈ pool.tasks, t.phase = .done) : ∃ result, Answers p policy pool result := by
  by_cases hpolicy : policy = .abort
  · subst hpolicy
    rcases Program.runInputs_abort (p := p) (pool.tasks.map Task.input) with
      ⟨made, hmade, -⟩ | ⟨before, input, after, e, heq, -, hfailure, -⟩
    · rw [← Program.map_process_result_eq_ok, List.map_map] at hmade
      exact ⟨_, .collected h hmade⟩
    · have hinput : input ∈ pool.tasks.map Task.input := by rw [heq]; simp
      obtain ⟨t, ht, rfl⟩ := List.mem_map.mp hinput
      exact ⟨_, .failed (fun t ht => .inr (h t ht)) ht (h t ht)
        (Program.process_result_eq_error.mpr hfailure)⟩
  · exact ⟨_, .accepted hpolicy h⟩

/-- Where failures are tolerated, an answer is the result of the run. -/
theorem Answers.result_eq {policy : ErrorPolicy} {pool : Pool}
    {result : Except RecordError RunOutput} (h : Answers p policy pool result)
    (hpolicy : policy ≠ .abort) :
    result = (p.runInputs policy (pool.tasks.map Task.input)).result ∧
      ∀ t ∈ pool.tasks, t.phase = .done := by
  cases h with
  | accepted _ complete => exact ⟨result_foldr_accept policy pool.tasks, complete⟩
  | collected => exact absurd rfl hpolicy
  | failed => exact absurd rfl hpolicy

/-- Where no failure is tolerated, a pool answers with the records of the run, or with a failure of
one of its records; then the run fails as well. -/
theorem Answers.abort {pool : Pool} {result : Except RecordError RunOutput}
    (h : Answers p .abort pool result) :
    (∀ out, result = .ok out ↔
      (p.runInputs .abort (pool.tasks.map Task.input)).result = .ok out) ∧
    ∀ e, result = .error e → ∃ input ∈ pool.tasks.map Task.input, p.failure? input = some e := by
  have hrun := Program.runInputs_abort (p := p) (pool.tasks.map Task.input)
  cases h with
  | accepted policy_ne => exact absurd rfl policy_ne
  | @collected _ made complete results =>
    have hmap : (pool.tasks.map Task.input).map (fun input => (p.transform input.2).result) =
        made.map .ok := by
      rw [← Program.map_process_result_eq_ok, List.map_map]
      exact results
    refine ⟨?_, by simp⟩
    rcases hrun with ⟨made', hmade', hrun⟩ | ⟨before, input, after, e, heq, -, hfailure, -⟩
    · have hmade : made' = made :=
        List.map_injective_iff.mpr (fun _ _ => Except.ok.inj) (hmade'.symm.trans hmap)
      simp [hrun, hmade]
    · have hinput : input ∈ pool.tasks.map Task.input := by simp [heq]
      have hnone := Program.failure?_eq_none_of_map_eq hmap hinput
      simp [hnone] at hfailure
  | @failed _ t e idle mem done result =>
    have hfailure := Program.process_result_eq_error.mp result
    have hmem : t.input ∈ pool.tasks.map Task.input := List.mem_map_of_mem mem
    refine ⟨?_, ?_⟩
    · intro out
      rcases hrun with ⟨made, hmade, -⟩ | ⟨_, _, _, _, -, -, -, hrun⟩
      · simp [Program.failure?_eq_none_of_map_eq hmade hmem] at hfailure
      · simp [hrun]
    · rintro _ ⟨⟩
      exact ⟨t.input, hmem, hfailure⟩

end Pool

/-! ### Agreement -/

namespace Program

/-- A parallel run agrees with the run that takes one record after another, whatever its schedule.
Every schedule can be brought to an answer. Where failures are tolerated, the answer is the result
of the run, and the messages of the run come interleaved, those of each record in their order.
Where none is tolerated, the parallel run succeeds with the records of the run exactly when the run
succeeds, and otherwise its error is that of a record that fails on its own. -/
theorem runsParallel_agrees_with_run (p : Program) (policy : ErrorPolicy) (records : List Record) :
    (∀ pool, Pool.Steps p (.start (p.ordered records)) pool →
      ∃ pool' result, Pool.Steps p pool pool' ∧ Pool.Answers p policy pool' result) ∧
    ∀ outcome, p.RunsParallel policy records outcome →
      (policy ≠ .abort → outcome.result = (p.run policy records).result ∧
        IsInterleaving ((p.ordered records).map fun input => (p.transform input.2).log)
          outcome.log ∧
        ((p.ordered records).map fun input => (p.transform input.2).log).flatten =
          (p.run policy records).log ∧
        outcome.log.Perm (p.run policy records).log) ∧
      (policy = .abort →
        (∀ out, outcome.result = .ok out ↔ (p.run policy records).result = .ok out) ∧
        ∀ e, outcome.result = .error e →
          ∃ i r, records[i]? = some r ∧ p.failure? (i, r) = some e) := by
  have hkept := fun pool (steps : Pool.Steps p (.start (p.ordered records)) pool) =>
    steps.isUnderWay (Pool.isUnderWay_start (p.ordered records))
  refine ⟨?_, ?_⟩
  · intro pool steps
    obtain ⟨pool', steps', hdone⟩ := (hkept pool steps).exists_complete
    obtain ⟨result, hanswers⟩ := Pool.exists_answers policy hdone
    exact ⟨pool', result, steps', hanswers⟩
  · rintro outcome ⟨pool, steps, hanswers, hlog⟩
    obtain ⟨hinputs, hmixed, -⟩ := hkept pool steps
    refine ⟨?_, ?_⟩
    · intro hpolicy
      obtain ⟨hresult, hdone⟩ := hanswers.result_eq hpolicy
      have hlogged : pool.tasks.map (Task.logged p) =
          (p.ordered records).map fun input => (p.transform input.2).log := by
        rw [← hinputs, List.map_map]
        apply List.map_congr_left
        intro t ht
        simp [Task.logged, hdone t ht]
      have hflat : ((p.ordered records).map fun input => (p.transform input.2).log).flatten =
          (p.run policy records).log := by
        rw [run, runInputs_of_ne_abort hpolicy, messages, List.flatMap_def]
      rw [hlogged, ← hlog] at hmixed
      rw [hinputs] at hresult
      exact ⟨hresult, hmixed, hflat, hflat ▸ hmixed.perm⟩
    · rintro rfl
      obtain ⟨hok, herror⟩ := hanswers.abort
      rw [hinputs] at hok herror
      refine ⟨hok, ?_⟩
      intro e he
      obtain ⟨⟨i, r⟩, hmem, hfailure⟩ := herror e he
      exact ⟨i, r, mem_ordered.mp hmem, hfailure⟩

end Program

end RecordScript

namespace RecordScript.Program

/-- Two records that fail after they have logged their names. Tolerated, they fail in the order of
the run though the second one logs first; not tolerated, the second one fails alone where the run
would have ended at the first. -/
theorem runsParallel_agrees_with_run_negation :
    ∃ (p : Program) (a b : Record) (ea eb : RecordError),
      ((ea.index = 0 ∧ ea.record = a) ∧ eb.index = 1 ∧ eb.record = b) ∧
      (p.RunsParallel .skip [a, b] ⟨["b", "a"], .ok ⟨[], [ea, eb]⟩⟩ ∧
        (p.run .skip [a, b]).result = .ok ⟨[], [ea, eb]⟩ ∧
        ["b", "a"].Perm (p.run .skip [a, b]).log) ∧
      p.RunsParallel .abort [a, b] ⟨["b"], .error eb⟩ ∧
      (p.run .abort [a, b]).result = .error ea ∧
      ∃ i r, [a, b][i]? = some r ∧ p.failure? (i, r) = some eb := by
  let pos : Position := ⟨"main", 1, 1⟩
  let p : Program := ⟨{}, [.call pos "log" [.field pos "name"],
    .assign pos "name" (.unary pos .not (.field pos "name"))]⟩
  let a : Record := ⟨[("name", "a")], by decide⟩
  let b : Record := ⟨[("name", "b")], by decide⟩
  let ea : RecordError := ⟨0, a, ⟨.type (.fieldUse "name" .boolean), pos⟩⟩
  let eb : RecordError := ⟨1, b, ⟨.type (.fieldUse "name" .boolean), pos⟩⟩
  have ha : p.process (0, a) = ⟨["a"], .error ea⟩ := by rfl
  have hb : p.process (1, b) = ⟨["b"], .error eb⟩ := by rfl
  -- the second record is taken up first
  have second : Pool.Steps p (.start (p.ordered [a, b]))
      ⟨[⟨(0, a), .waiting⟩, ⟨(1, b), .done⟩], ["b"]⟩ :=
    .head (@Pool.Step.takeUp _ p [⟨(0, a), .waiting⟩] [] (1, b) []) <|
    .head (@Pool.Step.message _ p [⟨(0, a), .waiting⟩] [] (1, b) [] 0 "b" (by rw [hb]; rfl)) <|
    .single (@Pool.Step.finish _ p [⟨(0, a), .waiting⟩] [] (1, b) ["b"] 1 (by rw [hb]; rfl))
  have first : Pool.Steps p ⟨[⟨(0, a), .waiting⟩, ⟨(1, b), .done⟩], ["b"]⟩
      ⟨[⟨(0, a), .done⟩, ⟨(1, b), .done⟩], ["b", "a"]⟩ :=
    .head (@Pool.Step.takeUp _ p [] [⟨(1, b), .done⟩] (0, a) ["b"]) <|
    .head (@Pool.Step.message _ p [] [⟨(1, b), .done⟩] (0, a) ["b"] 0 "a" (by rw [ha]; rfl)) <|
    .single (@Pool.Step.finish _ p [] [⟨(1, b), .done⟩] (0, a) ["b", "a"] 1 (by rw [ha]; rfl))
  have hskip : p.RunsParallel .skip [a, b] ⟨["b", "a"], .ok ⟨[], [ea, eb]⟩⟩ := by
    refine ⟨_, second.trans first, ?_, rfl⟩
    have hresult : (([⟨(0, a), .done⟩, ⟨(1, b), .done⟩] : List Task).foldr
        (fun t rest => accept .skip (p.process t.input).result rest) (.succeed {})).result =
        .ok ⟨[], [ea, eb]⟩ := by
      simp only [List.foldr_cons, ha, hb]
      rfl
    rw [← hresult]
    exact .accepted (by decide) (by simp)
  have habort : p.RunsParallel .abort [a, b] ⟨["b"], .error eb⟩ :=
    ⟨_, second, .failed (by simp) (.tail _ (.head _)) rfl (by rw [hb]), rfl⟩
  obtain ⟨hresult, -, -, hperm⟩ :=
    ((runsParallel_agrees_with_run p .skip [a, b]).2 _ hskip).1 (by decide)
  obtain ⟨-, herror⟩ := ((runsParallel_agrees_with_run p .abort [a, b]).2 _ habort).2 rfl
  refine ⟨p, a, b, ea, eb, by simp [ea, eb], ⟨hskip, hresult.symm, hperm⟩, habort, ?_,
    herror eb rfl⟩
  rfl

end RecordScript.Program
