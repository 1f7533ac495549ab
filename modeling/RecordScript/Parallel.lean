import Mathlib.Logic.Relation
import RecordScript.Run

/-!
# Parallel runs

Takes a sequence of records through a program with several hands. Records are taken up in any order
and processed at the same time, so what they log comes out mixed; every result goes to the place of
its record, and the results are accepted in the order of the run. Where no failure is tolerated, a
failure may keep records from being taken up, and any failure that has come up can be the answer.
-/

namespace RecordScript

variable [RegexEngine]

/-- How far the processing of a record has come. -/
inductive Phase where
  /-- Nobody has taken the record up. -/
  | waiting
  /-- The record is being processed and has logged this many of its messages. -/
  | working (logged : Nat)
  /-- The result is in its place. -/
  | done
deriving DecidableEq, Repr

/-- A record at a place of the input, and how far its processing has come. -/
structure Task where
  input : Nat × Record
  phase : Phase

/-- A parallel run on its way: its records in the order of the run, and what has been logged. -/
structure Pool where
  tasks : List Task
  log : List String

namespace Pool

/-- The pool before any record has been taken up. -/
def start (inputs : List (Nat × Record)) : Pool := ⟨inputs.map fun input => ⟨input, .waiting⟩, []⟩

/-- What a hand can do next: take up a record, log the next message of a record that is being
processed, or put the result of such a record in its place. -/
inductive Step (p : Program) : Pool → Pool → Prop
  | takeUp {before after : List Task} {input : Nat × Record} {log : List String} :
    Step p ⟨before ++ ⟨input, .waiting⟩ :: after, log⟩ ⟨before ++ ⟨input, .working 0⟩ :: after, log⟩
  | message {before after : List Task} {input : Nat × Record} {log : List String} {n : Nat}
      {m : String} (next : (p.process input).log[n]? = some m) :
    Step p ⟨before ++ ⟨input, .working n⟩ :: after, log⟩
      ⟨before ++ ⟨input, .working (n + 1)⟩ :: after, log ++ [m]⟩
  | finish {before after : List Task} {input : Nat × Record} {log : List String} {n : Nat}
      (last : (p.process input).log.length = n) :
    Step p ⟨before ++ ⟨input, .working n⟩ :: after, log⟩ ⟨before ++ ⟨input, .done⟩ :: after, log⟩

/-- A schedule leads from one pool to another. -/
abbrev Steps (p : Program) : Pool → Pool → Prop := Relation.ReflTransGen (Step p)

/-- What a pool can answer when no record is being processed any more. -/
inductive Answers (p : Program) : ErrorPolicy → Pool → Except RecordError RunOutput → Prop
  /-- The results of all records are accepted by the policy. -/
  | accepted {policy : ErrorPolicy} {pool : Pool} (policy_ne : policy ≠ .abort)
      (complete : ∀ t ∈ pool.tasks, t.phase = .done) :
    Answers p policy pool (pool.tasks.foldr
      (fun t rest => Program.accept policy (p.process t.input).result rest) (.succeed {})).result
  /-- All records have been made. -/
  | collected {pool : Pool} {made : List Record} (complete : ∀ t ∈ pool.tasks, t.phase = .done)
      (results : pool.tasks.map (fun t => (p.process t.input).result) = made.map .ok) :
    Answers p .abort pool (.ok { records := made })
  /-- Some record has failed; others may still be waiting. -/
  | failed {pool : Pool} {t : Task} {e : RecordError}
      (idle : ∀ t ∈ pool.tasks, t.phase = .waiting ∨ t.phase = .done) (mem : t ∈ pool.tasks)
      (done : t.phase = .done) (result : (p.process t.input).result = .error e) :
    Answers p .abort pool (.error e)

end Pool

/-- Some schedule of a parallel run has the outcome. -/
def Program.RunsParallel (p : Program) (policy : ErrorPolicy) (records : List Record)
    (outcome : Outcome RecordError RunOutput) : Prop :=
  ∃ pool, Pool.Steps p (.start (p.ordered records)) pool ∧
    Pool.Answers p policy pool outcome.result ∧ outcome.log = pool.log

end RecordScript
