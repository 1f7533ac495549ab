import RecordScript.Pattern.PlaceEngine
import RecordScript.Proofs.Execution.Sequence
import RecordScript.Proofs.Execution.Writes
import RecordScript.Proofs.Loading.Validity
import RecordScript.Proofs.Run.Reversal
import RecordScript.Proofs.Syntax.Equality

/-!
# Executions one event after another

An execution as a machine that takes the first of its steps and goes on with those that remain. What
it does is a list of events: assignments that have written their text, conditions that have been
decided, and calls that have been made. Assignments alone change the record. A machine that is stuck
at a failure has done what the events before the failure say and nothing else, and this is what the
execution leaves.
-/

namespace RecordScript

variable [RegexEngine]

/-! ### Sizes of steps -/

mutual

/-- The number of steps and arms in a step. -/
def Step.size : Step → Nat
  | .assign _ _ _ | .call _ _ _ => 1
  | .rule arms none => armsSize arms + 1
  | .rule arms (some body) => armsSize arms + 1 + stepsSize body

/-- The number of steps and arms in arms. -/
def armsSize : List Arm → Nat
  | [] => 0
  | .mk _ body :: arms => stepsSize body + 1 + armsSize arms

/-- The number of steps and arms in a list of steps. -/
def stepsSize : List Step → Nat
  | [] => 0
  | step :: steps => step.size + stepsSize steps

end

theorem stepsSize_append (ss ts : List Step) :
    stepsSize (ss ++ ts) = stepsSize ss + stepsSize ts := by
  induction ss with
  | nil => simp [stepsSize]
  | cons s ss ih => rw [List.cons_append, stepsSize, stepsSize, ih, Nat.add_assoc]

/-! ### The machine -/

namespace Execution

/-- What has been done with a part of the steps, with the messages that were logged on the way. -/
inductive Event where
  /-- The value of an assignment has been computed, and its text has been written. -/
  | assigned (pos : Position) (field : String) (value : Expr) (text : String) (log : List String)
  /-- A condition has been found to hold, or not to hold. -/
  | decided (condition : Expr) (holds : Bool) (log : List String)
  /-- A call has been made, and what it gave has been dropped. -/
  | called (pos : Position) (function : String) (args : List Expr) (log : List String)

/-- What an event has written. -/
def Event.writes : Event → List (String × String)
  | assigned _ field _ text _ => [(field, text)]
  | decided _ _ _ | called _ _ _ _ => []

/-- What an event has logged. -/
def Event.log : Event → List String
  | assigned _ _ _ _ log | decided _ _ log | called _ _ _ log => log

/-- What events have written, in order. -/
def writesOf (events : List Event) : List (String × String) := events.flatMap Event.writes

/-- What events have logged, in order. -/
def messagesOf (events : List Event) : List String := events.flatMap Event.log

/-- The first of the steps is taken, with at most one event, and others remain. -/
inductive Advances (config : Config) :
    List Step → Record → List Event → List Step → Record → Prop
  | assign {pos : Position} {field : String} {value : Expr} {ss : List Step} {record : Record}
    {log : List String} {operand : Operand} {text : String}
    (hvalue : value.evaluate config record = ⟨log, .ok operand⟩)
    (htext : operand.fieldText (some field) = .ok text) :
    Advances config (.assign pos field value :: ss) record [.assigned pos field value text log] ss
      (record.set field text)
  | call {pos : Position} {function : String} {args : List Expr} {ss : List Step}
    {record : Record} {log : List String} {operand : Operand}
    (hcall : Expr.evaluate config record (.call pos function args) = ⟨log, .ok operand⟩) :
    Advances config (.call pos function args :: ss) record [.called pos function args log] ss record
  | enter {condition : Expr} {body : List Step} {arms : List Arm} {otherwise : Option (List Step)}
    {ss : List Step} {record : Record} {log : List String}
    (hcondition : condition.condition config record = ⟨log, .ok true⟩) :
    Advances config (.rule (.mk condition body :: arms) otherwise :: ss) record
      [.decided condition true log] (body ++ ss) record
  | pass {condition : Expr} {body : List Step} {arms : List Arm} {otherwise : Option (List Step)}
    {ss : List Step} {record : Record} {log : List String}
    (hcondition : condition.condition config record = ⟨log, .ok false⟩) :
    Advances config (.rule (.mk condition body :: arms) otherwise :: ss) record
      [.decided condition false log] (.rule arms otherwise :: ss) record
  | otherwise {body ss : List Step} {record : Record} :
    Advances config (.rule [] (some body) :: ss) record [] (body ++ ss) record
  | leave {ss : List Step} {record : Record} :
    Advances config (.rule [] none :: ss) record [] ss record

/-- The first of the steps fails on the record: a value is not computed or cannot be stored, a
condition fails or is no truth value, or a call fails. -/
inductive FailsAt (config : Config) (record : Record) :
    List Step → List String → EvalError → Prop
  | value {pos : Position} {field : String} {value : Expr} {ss : List Step} {log : List String}
    {e : EvalError} (hvalue : value.evaluate config record = ⟨log, .error e⟩) :
    FailsAt config record (.assign pos field value :: ss) log e
  | storage {pos : Position} {field : String} {value : Expr} {ss : List Step} {log : List String}
    {operand : Operand} {fault : Fault} (hvalue : value.evaluate config record = ⟨log, .ok operand⟩)
    (htext : operand.fieldText (some field) = .error fault) :
    FailsAt config record (.assign pos field value :: ss) log ⟨fault, pos⟩
  | condition {condition : Expr} {body : List Step} {arms : List Arm}
    {otherwise : Option (List Step)} {ss : List Step} {log : List String} {e : EvalError}
    (hcondition : condition.condition config record = ⟨log, .error e⟩) :
    FailsAt config record (.rule (.mk condition body :: arms) otherwise :: ss) log e
  | call {pos : Position} {function : String} {args : List Expr} {ss : List Step}
    {log : List String} {e : EvalError}
    (hcall : Expr.evaluate config record (.call pos function args) = ⟨log, .error e⟩) :
    FailsAt config record (.call pos function args :: ss) log e

/-- Steps are taken one after another, with the given events, until others remain. -/
inductive Runs (config : Config) : List Step → Record → List Event → List Step → Record → Prop
  | here {ss : List Step} {record : Record} : Runs config ss record [] ss record
  | head {ss ss' left : List Step} {record record' last : Record} {front events : List Event}
    (hfront : Advances config ss record front ss' record')
    (hrest : Runs config ss' record' events left last) :
    Runs config ss record (front ++ events) left last

/-! ### One step -/

/-- The execution with events in front of it. -/
def following (x : Execution) (events : List Event) : Execution :=
  { x with writes := writesOf events ++ x.writes, log := messagesOf events ++ x.log }

@[simp]
theorem following_nil (x : Execution) : x.following [] = x := rfl

theorem following_append (x : Execution) (front events : List Event) :
    x.following (front ++ events) = (x.following events).following front := by
  simp [following, writesOf, messagesOf]

variable {config : Config} {ss ss' left : List Step} {record record' last : Record}
  {events : List Event}

/-- A step that is taken does what its event says, and the others are executed on the record that it
leaves. -/
theorem Advances.execute_eq (h : Advances config ss record events ss' record') :
    executeSteps config ss record = (executeSteps config ss' record').following events := by
  cases h with
  | @assign pos field value _ _ log operand text hvalue htext =>
    have hstep : (Step.assign pos field value).execute config record =
        (write record field text).after log := by
      rw [Step.execute, hvalue]
      simp [ofOutcome, bind, Outcome.andThen, Outcome.after, placed, Outcome.placed, htext,
        Outcome.ofExcept, Outcome.mapError, Except.mapError]
    rw [executeSteps, hstep, after_andThen]
    simp [andThen, write, after, following, writesOf, messagesOf, Event.writes, Event.log]
  | call hcall =>
    rw [executeSteps, Step.execute, ofOutcome, hcall, after_andThen]
    simp [andThen, idle, after, following, writesOf, messagesOf, Event.writes, Event.log]
  | enter hcondition =>
    rw [executeSteps, Step.execute, executeArms, ofOutcome, hcondition, after_andThen,
      executeSteps_append]
    simp [after, following, writesOf, messagesOf, Event.writes, Event.log]
  | pass hcondition =>
    rw [executeSteps, Step.execute, executeArms, ofOutcome, hcondition, after_andThen,
      executeSteps, Step.execute]
    simp [after, following, writesOf, messagesOf, Event.writes, Event.log]
  | otherwise =>
    rw [executeSteps, Step.execute, executeArms, executeSteps_append, following_nil]
  | leave =>
    rw [executeSteps, Step.execute, executeArms, following_nil]
    simp [andThen, idle]

/-- A step that is taken changes the record by what its event has written. -/
theorem Advances.record_eq (h : Advances config ss record events ss' record') :
    record' = record.setAll (writesOf events) := by
  cases h <;> rfl

/-- A step that fails writes nothing, and no other is executed. -/
theorem FailsAt.execute_eq {log : List String} {e : EvalError}
    (h : FailsAt config record ss log e) :
    executeSteps config ss record = ⟨record, [], log, some e⟩ := by
  cases h with
  | value hvalue =>
    rw [executeSteps, Step.execute, hvalue]
    simp [ofOutcome, bind, Outcome.andThen, andThen]
  | storage hvalue htext =>
    rw [executeSteps, Step.execute, hvalue]
    simp [ofOutcome, bind, Outcome.andThen, Outcome.after, placed, Outcome.placed, htext,
      Outcome.ofExcept, Outcome.mapError, Except.mapError, andThen]
  | condition hcondition =>
    rw [executeSteps, Step.execute, executeArms, ofOutcome, hcondition]
    rfl
  | call hcall =>
    rw [executeSteps, Step.execute, ofOutcome, hcall]
    rfl

/-- A machine that is not at its end takes a step or fails. -/
theorem advances_or_failsAt (config : Config) (s : Step) (ss : List Step) (record : Record) :
    (∃ events ss' record', Advances config (s :: ss) record events ss' record') ∨
      ∃ log e, FailsAt config record (s :: ss) log e := by
  cases s with
  | assign pos field value =>
    cases hvalue : value.evaluate config record with
    | mk log result =>
      cases result with
      | error e => exact .inr ⟨log, e, .value hvalue⟩
      | ok operand =>
        cases htext : operand.fieldText (some field) with
        | error fault => exact .inr ⟨log, ⟨fault, pos⟩, .storage hvalue htext⟩
        | ok text => exact .inl ⟨_, _, _, .assign hvalue htext⟩
  | call pos function args =>
    cases hcall : Expr.evaluate config record (.call pos function args) with
    | mk log result =>
      cases result with
      | error e => exact .inr ⟨log, e, .call hcall⟩
      | ok operand => exact .inl ⟨_, _, _, .call hcall⟩
  | rule arms otherwise =>
    cases arms with
    | nil =>
      cases otherwise with
      | none => exact .inl ⟨_, _, _, .leave⟩
      | some body => exact .inl ⟨_, _, _, .otherwise⟩
    | cons arm arms =>
      obtain ⟨condition, body⟩ := arm
      cases hcondition : condition.condition config record with
      | mk log result =>
        cases result with
        | error e => exact .inr ⟨log, e, .condition hcondition⟩
        | ok holds =>
          cases holds with
          | true => exact .inl ⟨_, _, _, .enter hcondition⟩
          | false => exact .inl ⟨_, _, _, .pass hcondition⟩

/-- Only one step can be taken. -/
theorem Advances.unique (h : Advances config ss record events ss' record')
    {events' : List Event} {ss'' : List Step} {record'' : Record}
    (h' : Advances config ss record events' ss'' record'') :
    events = events' ∧ ss' = ss'' ∧ record' = record'' := by
  cases h <;> cases h' <;> simp_all

/-- A machine that fails takes no step. -/
theorem FailsAt.not_advances {log : List String} {e : EvalError}
    (h : FailsAt config record ss log e) : ¬ Advances config ss record events ss' record' := by
  intro h'
  cases h <;> cases h' <;> simp_all

/-! ### All steps -/

theorem Advances.size_lt (h : Advances config ss record events ss' record') :
    stepsSize ss' < stepsSize ss := by
  cases h with
  | assign | call | leave | otherwise =>
    simp only [stepsSize, stepsSize_append, Step.size, armsSize]
    omega
  | @enter _ _ _ otherwise | @pass _ _ _ otherwise =>
    cases otherwise <;> simp only [stepsSize, stepsSize_append, Step.size, armsSize] <;> omega

/-- Every machine comes to its end or to a failure. -/
theorem exists_runs (config : Config) (ss : List Step) (record : Record) :
    ∃ events left last, Runs config ss record events left last ∧
      (left = [] ∨ ∃ log e, FailsAt config last left log e) := by
  induction h : stepsSize ss using Nat.strong_induction_on generalizing ss record with
  | _ n ih =>
    cases ss with
    | nil => exact ⟨[], [], record, .here, .inl rfl⟩
    | cons s ss =>
      rcases advances_or_failsAt config s ss record with ⟨front, ss', record', hfront⟩ | hfails
      · have hlt : stepsSize ss' < n := h ▸ hfront.size_lt
        obtain ⟨events, left, last, hruns, hend⟩ := ih _ hlt ss' record' rfl
        exact ⟨front ++ events, left, last, .head hfront hruns, hend⟩
      · exact ⟨[], s :: ss, record, .here, .inr hfails⟩

/-- An execution does what the events of a machine say, and then what the steps do that remain. -/
theorem Runs.execute_eq (h : Runs config ss record events left last) :
    executeSteps config ss record = (executeSteps config left last).following events := by
  induction h with
  | here => rw [following_nil]
  | head hfront _ ih => rw [hfront.execute_eq, ih, following_append]

/-- The record is changed by what the events have written and by nothing else. -/
theorem Runs.record_eq (h : Runs config ss record events left last) :
    last = record.setAll (writesOf events) := by
  induction h with
  | here => rfl
  | head hfront _ ih =>
    rw [ih, hfront.record_eq, writesOf, writesOf, writesOf, List.flatMap_append,
      Record.setAll_append]

/-- What a machine does on its way to a failure begins with all that it can do. -/
theorem Runs.prefix_of_failsAt (h : Runs config ss record events left last) {log : List String}
    {e : EvalError} (hfails : FailsAt config last left log e) {events' : List Event}
    {left' : List Step} {last' : Record} (h' : Runs config ss record events' left' last') :
    events' <+: events := by
  induction h' generalizing events with
  | here => exact List.nil_prefix
  | head hfront' _ ih =>
    cases h with
    | here => exact absurd hfront' hfails.not_advances
    | head hfront hrest =>
      obtain ⟨rfl, rfl, rfl⟩ := hfront.unique hfront'
      exact (List.prefix_append_right_inj _).mpr (ih hrest)

end Execution

namespace Program

open Execution

/-- An execution that fails leaves exactly the assignments that were completed. It has been running
through events up to a step that fails on the record that the assignments among them have made. This
record is what the execution leaves; it has logged what the events have logged and what the step
that fails has logged, and nothing else. Whatever the machine does on its way is a beginning of
these events, and changes the record by the assignments in it alone. An error of a run still shows
the record as it came in. -/
theorem execute_leaves_completed_writes (p : Program) (record : Record) :
    (∀ e, (p.execute record).error? = some e →
      ∃ events left log,
        Runs p.config p.steps record events left (record.setAll (writesOf events)) ∧
        FailsAt p.config (record.setAll (writesOf events)) left log e ∧
        p.execute record =
          ⟨record.setAll (writesOf events), writesOf events, messagesOf events ++ log, some e⟩ ∧
        ∀ events' left' last, Runs p.config p.steps record events' left' last →
          events' <+: events ∧ last = record.setAll (writesOf events')) ∧
    (∀ index e, (p.execute record).error? = some e →
      (p.process (index, record)).result = .error ⟨index, record, e⟩) ∧
    ∀ policy records failure, (p.run policy records).Reports failure →
      records[failure.index]? = some failure.record ∧
        (p.execute failure.record).error? = some failure.error := by
  refine ⟨?_, ?_, ?_⟩
  · intro e he
    obtain ⟨events, left, last, hruns, hend⟩ := exists_runs p.config p.steps record
    have hexecute : p.execute record = (executeSteps p.config left last).following events :=
      hruns.execute_eq
    obtain rfl := hruns.record_eq
    rcases hend with rfl | ⟨log, e', hfails⟩
    · rw [hexecute] at he
      cases he
    · rw [hfails.execute_eq] at hexecute
      obtain rfl : e' = e := by
        rw [hexecute] at he
        exact Option.some.inj he
      refine ⟨events, left, log, hruns, hfails, ?_, ?_⟩
      · rw [hexecute, following, List.append_nil]
      · intro events' left' last hruns'
        exact ⟨hruns.prefix_of_failsAt hfails hruns', hruns'.record_eq⟩
  · intro index e he
    rw [process, transform, he]
    rfl
  · intro policy records failure hreports
    refine ⟨getElem?_of_reports hreports, ?_⟩
    obtain ⟨⟨index, r⟩, -, hfailure⟩ := exists_input_of_reports hreports
    rw [failure?, transform] at hfailure
    cases he : (p.execute r).error? with
    | none => simp [he] at hfailure
    | some e =>
      simp only [he, Option.some.injEq] at hfailure
      obtain rfl := hfailure
      exact he

end Program

end RecordScript

namespace RecordScript.Program.Trace

open Execution

/-- A program with a rule in which an assignment fails when its call has been made. -/
def source : Source :=
  ⟨⟨"main"⟩, "note = x if x == '1' then log(note) late = log('c') end = x fi"⟩

/-- The program as it is loaded. -/
def loaded : Program :=
  ⟨{}, [.assign ⟨"main", 1, 1⟩ "note" (.field ⟨"main", 1, 8⟩ "x"),
    .rule [.mk (.comparison ⟨"main", 1, 13⟩ .eq (.field ⟨"main", 1, 13⟩ "x")
        (.literal ⟨"main", 1, 18⟩ (.string "1")))
      [.call ⟨"main", 1, 27⟩ "log" [.field ⟨"main", 1, 31⟩ "note"],
        .assign ⟨"main", 1, 37⟩ "late"
          (.call ⟨"main", 1, 44⟩ "log" [.literal ⟨"main", 1, 48⟩ (.string "c")]),
        .assign ⟨"main", 1, 53⟩ "end" (.field ⟨"main", 1, 59⟩ "x")]] none]⟩

/-- A record that enters the rule. -/
def record : Record := ⟨[("x", "1")], by decide⟩

/-- The error of the assignment. -/
def error : EvalError := ⟨.type (.notStorable (some "late") .none), ⟨"main", 1, 37⟩⟩

theorem ofSource_source : ofSource SourceTable.empty.toLibrary {} source = .ok loaded := by
  have hread : Expansion.readSource source = .ok ⟨[],
      [.assign ⟨"main", 1, 1⟩ "note" (.field ⟨"main", 1, 8⟩ "x"),
        .rule [.mk (.comparison ⟨"main", 1, 13⟩ .eq (.field ⟨"main", 1, 13⟩ "x")
            (.literal ⟨"main", 1, 18⟩ (.string "1")))
          [.call ⟨"main", 1, 27⟩ "log" [.field ⟨"main", 1, 31⟩ "note"],
            .assign ⟨"main", 1, 37⟩ "late"
              (.call ⟨"main", 1, 44⟩ "log" [.literal ⟨"main", 1, 48⟩ (.string "c")]),
            .assign ⟨"main", 1, 53⟩ "end" (.field ⟨"main", 1, 59⟩ "x")]] none]⟩ := by
    decide +kernel
  refine ofSource_eq_ok.mpr ⟨_, _, hread, by rfl, by rfl, ?_⟩
  unfold loaded
  cbv

/-- The program fails inside of its rule, behind an assignment, a condition and a call. The record
that it leaves has the text of this one assignment. The message that the failing assignment has
logged is kept, and nothing of what stands behind it is done. -/
theorem execute_leaves_completed_writes_storage :
    ofSource SourceTable.empty.toLibrary {} source = .ok loaded ∧
    loaded.execute record = ⟨record.set "note" "1", [("note", "1")], ["1", "c"], some error⟩ ∧
    (∃ events left log,
      Runs loaded.config loaded.steps record events left (record.setAll (writesOf events)) ∧
      FailsAt loaded.config (record.setAll (writesOf events)) left log error ∧
      writesOf events = [("note", "1")] ∧ messagesOf events ++ log = ["1", "c"]) ∧
    (loaded.process (3, record)).result = .error ⟨3, record, error⟩ := by
  have hexecute : loaded.execute record =
      ⟨record.set "note" "1", [("note", "1")], ["1", "c"], some error⟩ := by rfl
  have herror : (loaded.execute record).error? = some error := by rw [hexecute]
  obtain ⟨hleaves, hprocess, -⟩ := execute_leaves_completed_writes loaded record
  obtain ⟨events, left, log, hruns, hfails, heq, -⟩ := hleaves error herror
  rw [hexecute] at heq
  injection heq with _ hwrites hlog _
  exact ⟨ofSource_source, hexecute, ⟨events, left, log, hruns, hfails, hwrites.symm, hlog.symm⟩,
    hprocess 3 error herror⟩

end RecordScript.Program.Trace
