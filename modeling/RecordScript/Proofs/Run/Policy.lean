import Mathlib.Data.List.Nodup
import RecordScript.Run

/-!
# Runs by policy

A run takes each record through the program on its own. What it gives is put together from what the
program makes of each record alone: which records go out and which failures are kept depends on the
policy, and nothing depends on the records that were taken before.
-/

namespace RecordScript

variable [RegexEngine]

namespace Program

/-- The record that the program makes of the one at a place of the input, if it does not fail. -/
def made? (p : Program) (input : Nat × Record) : Option Record :=
  match (p.transform input.2).result with
  | .ok record => some record
  | .error _ => none

/-- The failure of the record at a place of the input, with the record as it came in. -/
def failure? (p : Program) (input : Nat × Record) : Option RecordError :=
  match (p.transform input.2).result with
  | .ok _ => none
  | .error e => some ⟨input.1, input.2, e⟩

/-- The record that the program makes of the one at a place of the input, or else that one. -/
def madeOrKept (p : Program) (input : Nat × Record) : Record := (p.made? input).getD input.2

/-- All that is logged while the inputs are taken in their order. -/
def messages (p : Program) (inputs : List (Nat × Record)) : List String :=
  inputs.flatMap fun input => (p.transform input.2).log

variable {p : Program}

/-! ### The order of a run -/

theorem mem_ordered {records : List Record} {i : Nat} {r : Record} :
    (i, r) ∈ p.ordered records ↔ records[i]? = some r := by
  have hzip : (i, r) ∈ (List.range records.length).zip records ↔ records[i]? = some r := by
    rw [List.mem_iff_getElem?]
    constructor
    · rintro ⟨n, hn⟩
      obtain ⟨hi, hr⟩ := List.getElem?_zip_eq_some.mp hn
      obtain ⟨hn, hi⟩ := List.getElem?_eq_some_iff.mp hi
      obtain rfl : n = i := by simpa using hi
      exact hr
    · intro hr
      have hi : i < records.length := (List.getElem?_eq_some_iff.mp hr).1
      exact ⟨i, List.getElem?_zip_eq_some.mpr ⟨by simp [hi], hr⟩⟩
  rw [ordered]
  split
  · rw [List.mem_reverse, hzip]
  · exact hzip

/-- The records are taken in the order of their places, or against it. -/
theorem pairwise_ordered (records : List Record) :
    (p.ordered records).Pairwise fun x y => if p.config.reverse then y.1 < x.1 else x.1 < y.1 := by
  have hzip : ((List.range records.length).zip records).Pairwise fun x y => x.1 < y.1 := by
    rw [← List.pairwise_map (f := Prod.fst) (R := (· < ·)), List.map_fst_zip (by simp)]
    exact List.pairwise_lt_range
  rw [ordered]
  cases p.config.reverse with
  | true => simpa [List.pairwise_reverse] using hzip
  | false => simpa using hzip

/-! ### One record after another -/

/-- What goes out for the record at a place of the input, if anything. -/
def emitted? (p : Program) : ErrorPolicy → Nat × Record → Option Record
  | .keep, input => some (p.madeOrKept input)
  | _, input => p.made? input

theorem messages_cons (input : Nat × Record) (inputs : List (Nat × Record)) :
    p.messages (input :: inputs) = (p.transform input.2).log ++ p.messages inputs := rfl

/-- A record that the program does not fail on goes out in front of the rest, under any policy. -/
theorem runInputs_cons_of_ok {policy : ErrorPolicy} {input : Nat × Record} {record : Record}
    (h : (p.transform input.2).result = .ok record) (inputs : List (Nat × Record)) :
    p.runInputs policy (input :: inputs) =
      ⟨(p.transform input.2).log ++ (p.runInputs policy inputs).log,
        (p.runInputs policy inputs).result.map (·.emit record)⟩ := by
  simp [runInputs, process, Outcome.mapError, Outcome.after, accept, h, Except.mapError]

/-- A failure ends the run under the policy that tolerates none, after what it has logged. -/
theorem runInputs_abort_cons_of_error {input : Nat × Record} {e : EvalError}
    (h : (p.transform input.2).result = .error e) (inputs : List (Nat × Record)) :
    p.runInputs .abort (input :: inputs) =
      ⟨(p.transform input.2).log, .error ⟨input.1, input.2, e⟩⟩ := by
  simp [runInputs, process, Outcome.mapError, Outcome.after, accept, h, Except.mapError,
    Outcome.fail]

/-- Under a policy that tolerates failures a run goes through all records and succeeds. -/
theorem runInputs_of_ne_abort {policy : ErrorPolicy} (hpolicy : policy ≠ .abort)
    (inputs : List (Nat × Record)) :
    p.runInputs policy inputs =
      ⟨p.messages inputs,
        .ok ⟨inputs.filterMap (p.emitted? policy), inputs.filterMap p.failure?⟩⟩ := by
  induction inputs with
  | nil => rfl
  | cons input inputs ih =>
    cases h : (p.transform input.2).result with
    | ok record =>
      have hmade : p.made? input = some record := by simp [made?, h]
      have hemitted : p.emitted? policy input = some record := by
        cases policy <;> simp [emitted?, madeOrKept, hmade]
      have hfailure : p.failure? input = none := by simp [failure?, h]
      rw [runInputs_cons_of_ok h, ih, messages_cons, List.filterMap_cons_some hemitted,
        List.filterMap_cons_none hfailure]
      rfl
    | error e =>
      have hmade : p.made? input = none := by simp [made?, h]
      have hfailure : p.failure? input = some ⟨input.1, input.2, e⟩ := by simp [failure?, h]
      rw [messages_cons, List.filterMap_cons_some hfailure]
      cases policy with
      | abort => exact absurd rfl hpolicy
      | skip =>
        rw [List.filterMap_cons_none (show p.emitted? .skip input = none from hmade)]
        simp [runInputs, process, Outcome.mapError, Outcome.after, accept, h, Except.mapError, ih,
          Except.map, RunOutput.tolerate]
      | keep =>
        have hemitted : p.emitted? .keep input = some input.2 := by
          simp [emitted?, madeOrKept, hmade]
        rw [List.filterMap_cons_some hemitted]
        simp [runInputs, process, Outcome.mapError, Outcome.after, accept, h, Except.mapError, ih,
          Except.map, RunOutput.tolerate, RunOutput.emit]

/-- Without tolerance a run gives what the program makes of all records, or it ends at the first
failure. -/
theorem runInputs_abort (inputs : List (Nat × Record)) :
    (∃ made, inputs.map (fun input => (p.transform input.2).result) = made.map .ok ∧
      p.runInputs .abort inputs = ⟨p.messages inputs, .ok ⟨made, []⟩⟩) ∨
    ∃ before input after e, inputs = before ++ input :: after ∧
      (∀ x ∈ before, p.failure? x = none) ∧ p.failure? input = some e ∧
      p.runInputs .abort inputs = ⟨p.messages (before ++ [input]), .error e⟩ := by
  induction inputs with
  | nil => exact .inl ⟨[], rfl, rfl⟩
  | cons input inputs ih =>
    cases h : (p.transform input.2).result with
    | error e =>
      refine .inr ⟨[], input, inputs, ⟨input.1, input.2, e⟩, rfl, by simp, by simp [failure?, h], ?_⟩
      simp [runInputs_abort_cons_of_error h, messages]
    | ok record =>
      rw [runInputs_cons_of_ok h]
      rcases ih with ⟨made, hmade, hrun⟩ | ⟨before, other, after, e, rfl, hbefore, hother, hrun⟩
      · refine .inl ⟨record :: made, by simp [h, hmade], ?_⟩
        rw [hrun, messages_cons]
        rfl
      · refine .inr ⟨input :: before, other, after, e, rfl, ?_, hother, ?_⟩
        · simpa [failure?, h] using hbefore
        · rw [hrun, List.cons_append, messages_cons]
          rfl

/-! ### Whole runs -/

/-- A run by its policy, seen from what the program makes of each record alone. The records are
taken in the order of their places in the input, or against it. Where failures are tolerated, the
run succeeds with all records that the program has made, in order, or with all records where those
that have failed stand as they came in; its errors are the failures, in order. Otherwise it gives
all records that the program has made, or the first failure. It logs what each record logs that was
taken, up to its failure. -/
theorem run_eq_by_policy (p : Program) (records : List Record) :
    (∀ i r, (i, r) ∈ p.ordered records ↔ records[i]? = some r) ∧
    ((p.ordered records).Pairwise fun x y => if p.config.reverse then y.1 < x.1 else x.1 < y.1) ∧
    p.run .skip records = ⟨p.messages (p.ordered records),
      .ok ⟨(p.ordered records).filterMap p.made?, (p.ordered records).filterMap p.failure?⟩⟩ ∧
    p.run .keep records = ⟨p.messages (p.ordered records),
      .ok ⟨(p.ordered records).map p.madeOrKept, (p.ordered records).filterMap p.failure?⟩⟩ ∧
    ((∃ made, (p.ordered records).map (fun input => (p.transform input.2).result) = made.map .ok ∧
        p.run .abort records = ⟨p.messages (p.ordered records), .ok ⟨made, []⟩⟩) ∨
      ∃ before input after e, p.ordered records = before ++ input :: after ∧
        (∀ x ∈ before, p.failure? x = none) ∧ p.failure? input = some e ∧
        p.run .abort records = ⟨p.messages (before ++ [input]), .error e⟩) := by
  refine ⟨fun i r => mem_ordered, pairwise_ordered records, ?_, ?_, runInputs_abort _⟩
  · exact runInputs_of_ne_abort (by decide) _
  · have hkeep : p.emitted? .keep = fun input => some (p.madeOrKept input) := rfl
    rw [run, runInputs_of_ne_abort (by decide), hkeep, List.filterMap_eq_map']

end Program

end RecordScript
