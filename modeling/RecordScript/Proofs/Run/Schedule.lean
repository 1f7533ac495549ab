import RecordScript.Proofs.Run.Parallel

/-!
# Taking one record after another in parallel

One hand that takes up the records in the order of the run and finishes each before the next is one
of the schedules of a parallel run. What the run gives, a parallel run can give as well.
-/

namespace RecordScript

variable [RegexEngine] {p : Program}

namespace Pool

/-- The messages of a record can be logged one after another. -/
theorem steps_messages (before after : List Task) (input : Nat × Record) (log : List String)
    {n : Nat} (hn : n ≤ (p.process input).log.length) :
    Steps p ⟨before ++ ⟨input, .working 0⟩ :: after, log⟩
      ⟨before ++ ⟨input, .working n⟩ :: after, log ++ (p.process input).log.take n⟩ := by
  induction n with
  | zero =>
    rw [List.take_zero, List.append_nil]
  | succ n ih =>
    rw [List.take_succ_eq_append_getElem hn, ← List.append_assoc]
    exact .tail (ih (Nat.le_of_succ_le hn)) (.message (List.getElem?_eq_getElem hn))

/-- A record can be processed from its beginning to its end. -/
theorem steps_process (before after : List Task) (input : Nat × Record) (log : List String) :
    Steps p ⟨before ++ ⟨input, .waiting⟩ :: after, log⟩
      ⟨before ++ ⟨input, .done⟩ :: after, log ++ (p.process input).log⟩ := by
  have hmessages := steps_messages before after input log (Nat.le_refl (p.process input).log.length)
  rw [List.take_length] at hmessages
  exact .head .takeUp (.tail hmessages (.finish rfl))

/-- The records in front can be processed one after another, while the others wait. -/
theorem steps_processInOrder (done : List Task) (first rest : List (Nat × Record))
    (log : List String) :
    Steps p ⟨done ++ (first ++ rest).map (⟨·, .waiting⟩), log⟩
      ⟨done ++ (first.map (⟨·, .done⟩) ++ rest.map (⟨·, .waiting⟩)), log ++ p.messages first⟩ := by
  induction first generalizing done log with
  | nil =>
    rw [List.map_nil, List.nil_append, List.nil_append, Program.messages, List.flatMap_nil,
      List.append_nil]
  | cons input first ih =>
    have hfirst := steps_process (p := p) done ((first ++ rest).map (⟨·, .waiting⟩)) input log
    have hothers := ih (done ++ [⟨input, .done⟩]) (log ++ (p.process input).log)
    simp only [List.append_assoc, List.singleton_append] at hothers
    exact hfirst.trans hothers

end Pool

/-- What a run gives is what some schedule of a parallel run gives. -/
theorem Program.runsParallel_run (p : Program) (policy : ErrorPolicy) (records : List Record) :
    p.RunsParallel policy records (p.run policy records) := by
  have hall := Pool.steps_processInOrder (p := p) [] (p.ordered records) [] []
  simp only [List.append_nil, List.nil_append, List.map_nil] at hall
  have hdone : ∀ t ∈ (p.ordered records).map fun input => (⟨input, .done⟩ : Task),
      t.phase = .done := List.forall_mem_map.mpr fun _ _ => rfl
  by_cases hpolicy : policy = .abort
  · subst hpolicy
    rcases runInputs_abort (p := p) (p.ordered records) with
      ⟨made, hmade, hrun⟩ | ⟨before, input, after, e, heq, -, hfailure, hrun⟩
    · rw [← map_process_result_eq_ok] at hmade
      rw [run, hrun]
      refine ⟨_, hall, .collected hdone ?_, rfl⟩
      rw [List.map_map]
      exact hmade
    · -- the records behind the failure are never taken up
      have hsome := Pool.steps_processInOrder (p := p) [] (before ++ [input]) after []
      rw [List.append_assoc, List.singleton_append, ← heq] at hsome
      rw [run, hrun]
      refine ⟨_, hsome, ?_, rfl⟩
      refine .failed (t := ⟨input, .done⟩) ?_ (by simp) rfl (process_result_eq_error.mpr hfailure)
      simp only [List.nil_append, List.mem_append, List.mem_map]
      rintro t (⟨other, -, rfl⟩ | ⟨other, -, rfl⟩)
      · exact .inr rfl
      · exact .inl rfl
  · have hresult := result_foldr_accept (p := p) policy ((p.ordered records).map (⟨·, .done⟩))
    rw [List.map_map, show Task.input ∘ (⟨·, .done⟩) = id from rfl, List.map_id] at hresult
    refine ⟨_, hall, ?_, ?_⟩
    · rw [run, ← hresult]
      exact .accepted hpolicy hdone
    · rw [run, runInputs_of_ne_abort hpolicy]

end RecordScript
