import RecordScript.Command.Basic
import RecordScript.Proofs.Run.Schedule

/-!
# The command step by step

The command works on files, on its standard input and on two streams of output. It looks at them,
and changes them, in stages: each stage sees what the ones before have left, and holds what they
have found out. Every run of the command ends.
-/

namespace RecordScript.Command

variable [RegexEngine]

/-- What the command works on. -/
structure World where
  files : FileSystem
  /-- What has not been read yet of the standard input. -/
  stdin : List UInt8
  stdout : String
  stderr : String

/-- The world with a text behind the messages. -/
def World.tell (w : World) (text : String) : World := { w with stderr := w.stderr ++ text }

/-- How far the command has come, and what it holds. -/
inductive Stage where
  | called
  | loaded (p : Program)
  /-- The input is open: the standard input, or the file that the names lead to. -/
  | opened (p : Program) (source : Option (List String))
  | fetched (p : Program) (bytes : List UInt8)
  | read (p : Program) (sheet : Csv.Sheet)
  /-- All records have been taken through the program. -/
  | made (text : String)
  /-- The file for the output is there, and it is empty. -/
  | created (names : List String) (text : String)
  | ended (succeeded : Bool)

/-- The command on its way. -/
structure State where
  stage : Stage
  world : World

/-- The command when it is called. -/
def start (fs : FileSystem) (stdin : List UInt8) : State := ⟨.called, ⟨fs, stdin, "", ""⟩⟩

/-- What can come of taking the records through the program: what the run gives or, with several
hands, what any schedule gives. -/
def Runs (o : Options) (p : Program) (records : List Record)
    (x : Outcome RecordError RunOutput) : Prop :=
  if o.parallel then p.RunsParallel o.policy records x else x = p.run o.policy records

/-- The stage fails, after it has logged some messages. -/
inductive Fails (o : Options) (w : World) : Stage → List String → Failure → Prop
  | program {e : LoadError}
      (h : Program.load w.files.toLibrary o.loadOptions o.program = .error e) :
    Fails o w .called [] (.program e)
  | input {p : Program} {path : String} {problem : LookupProblem} (given : o.input = some path)
      (h : w.files.locate ⟨path⟩ = .error problem) : Fails o w (.loaded p) [] (.input path problem)
  | noBytes {p : Program} {names : List String} {problem : LookupProblem}
      (h : w.files.readNames names = .error problem) :
    Fails o w (.opened p (some names)) [] (.noBytes problem)
  | sheet {p : Program} {bytes : List UInt8} {e : Csv.ReadError} (h : Csv.read bytes = .error e) :
    Fails o w (.fetched p bytes) [] (.sheet e)
  | record {p : Program} {sheet : Csv.Sheet} {x : Outcome RecordError RunOutput} {e : RecordError}
      (h : Runs o p sheet.records x) (failed : x.result = .error e) :
    Fails o w (.read p sheet) x.log (.record e)
  | output {text : String} {path : String} {problem : LookupProblem} (given : o.output = some path)
      (h : w.files.locateOutput ⟨path⟩ = .error problem) :
    Fails o w (.made text) [] (.output path problem)

/-- The command goes from one stage to the next, or it fails and ends. -/
inductive Step (o : Options) : State → State → Prop
  | load {w : World} {p : Program}
      (h : Program.load w.files.toLibrary o.loadOptions o.program = .ok p) :
    Step o ⟨.called, w⟩ ⟨.loaded p, w⟩
  | openFile {w : World} {p : Program} {path : String} {names : List String}
      (given : o.input = some path) (h : w.files.locate ⟨path⟩ = .ok names) :
    Step o ⟨.loaded p, w⟩ ⟨.opened p (some names), w⟩
  | openStdin {w : World} {p : Program} (absent : o.input = none) :
    Step o ⟨.loaded p, w⟩ ⟨.opened p none, w⟩
  | fetchFile {w : World} {p : Program} {names : List String} {bytes : List UInt8}
      (h : w.files.readNames names = .ok bytes) :
    Step o ⟨.opened p (some names), w⟩ ⟨.fetched p bytes, w⟩
  | fetchStdin {w : World} {p : Program} :
    Step o ⟨.opened p none, w⟩ ⟨.fetched p w.stdin, { w with stdin := [] }⟩
  | readSheet {w : World} {p : Program} {bytes : List UInt8} {sheet : Csv.Sheet}
      (h : Csv.read bytes = .ok sheet) : Step o ⟨.fetched p bytes, w⟩ ⟨.read p sheet, w⟩
  | run {w : World} {p : Program} {sheet : Csv.Sheet} {x : Outcome RecordError RunOutput}
      {out : RunOutput} (h : Runs o p sheet.records x) (succeeded : x.result = .ok out) :
    Step o ⟨.read p sheet, w⟩
      ⟨.made (Csv.write (p.fields sheet.headers) out.records), w.tell (lines x.log)⟩
  | create {w : World} {text path : String} {names : List String} (given : o.output = some path)
      (h : w.files.locateOutput ⟨path⟩ = .ok names) :
    Step o ⟨.made text, w⟩ ⟨.created names text, { w with files := w.files.write names [] }⟩
  | write {w : World} {text : String} {names : List String} :
    Step o ⟨.created names text, w⟩
      ⟨.ended true, { w with files := w.files.write names (Text.encodeUtf8 text) }⟩
  | print {w : World} {text : String} (absent : o.output = none) :
    Step o ⟨.made text, w⟩ ⟨.ended true, { w with stdout := w.stdout ++ text }⟩
  | fail {w : World} {stage : Stage} {log : List String} {f : Failure}
      (h : Fails o w stage log f) :
    Step o ⟨stage, w⟩ ⟨.ended false, w.tell (lines log ++ f.report)⟩

/-- The command gets from one stage to another. -/
abbrev Steps (o : Options) : State → State → Prop := Relation.ReflTransGen (Step o)

/-- What the command can report when it is called with some arguments. -/
inductive Responds (fs : FileSystem) (stdin : List UInt8) (args : List String) : Report → Prop
  | ran {o : Options} {succeeded : Bool} {w : World}
      (asked : Request.ofArguments args = .ok (.run o))
      (steps : Steps o (start fs stdin) ⟨.ended succeeded, w⟩) :
    Responds fs stdin args ⟨succeeded, w.stdout, w.stderr, w.files⟩
  /-- Help, the version or a problem with the arguments. -/
  | answered (asked : ∀ o, Request.ofArguments args ≠ .ok (.run o)) :
    Responds fs stdin args (execute fs stdin args)

variable {o : Options}

/-! ### Runs of the records -/

/-- What the run gives can come of it with several hands as well. -/
theorem runs_run (o : Options) (p : Program) (records : List Record) :
    Runs o p records (p.run o.policy records) := by
  rw [Runs]
  split
  · exact p.runsParallel_run o.policy records
  · rfl

/-- With several hands the run succeeds with the same records, or it fails as well. -/
theorem Runs.result_eq_ok_iff {p : Program} {records : List Record}
    {x : Outcome RecordError RunOutput} (h : Runs o p records x) (out : RunOutput) :
    x.result = .ok out ↔ (p.run o.policy records).result = .ok out := by
  rw [Runs] at h
  split at h
  · obtain ⟨pool, steps, hanswers, -⟩ := h
    have hinputs := (steps.isUnderWay (Pool.isUnderWay_start (p.ordered records))).inputs_eq
    rw [Program.run, ← hinputs]
    by_cases hpolicy : o.policy = .abort
    · rw [hpolicy] at hanswers ⊢
      exact hanswers.abort.1 out
    · rw [(hanswers.result_eq hpolicy).1]
  · rw [h]

/-! ### Every run ends -/

/-- How many stages there are at most before the end. -/
def Stage.rank : Stage → Nat
  | called => 7
  | loaded _ => 6
  | opened _ _ => 5
  | fetched _ _ => 4
  | read _ _ => 3
  | made _ => 2
  | created _ _ => 1
  | ended _ => 0

theorem Step.rank_lt {s t : State} (h : Step o s t) : t.stage.rank < s.stage.rank := by
  cases h with
  | fail h => cases h <;> simp [Stage.rank]
  | _ => simp [Stage.rank]

/-- The command can go on as long as it has not ended. -/
theorem exists_step (o : Options) (stage : Stage) (w : World) :
    (∃ succeeded, stage = .ended succeeded) ∨ ∃ t, Step o ⟨stage, w⟩ t := by
  cases stage with
  | called =>
    cases h : Program.load w.files.toLibrary o.loadOptions o.program with
    | ok p => exact .inr ⟨_, .load h⟩
    | error e => exact .inr ⟨_, .fail (.program h)⟩
  | loaded p =>
    cases given : o.input with
    | none => exact .inr ⟨_, .openStdin given⟩
    | some path =>
      cases h : w.files.locate ⟨path⟩ with
      | ok names => exact .inr ⟨_, .openFile given h⟩
      | error problem => exact .inr ⟨_, .fail (.input given h)⟩
  | opened p source =>
    cases source with
    | none => exact .inr ⟨_, .fetchStdin⟩
    | some names =>
      cases h : w.files.readNames names with
      | ok bytes => exact .inr ⟨_, .fetchFile h⟩
      | error problem => exact .inr ⟨_, .fail (.noBytes h)⟩
  | fetched p bytes =>
    cases h : Csv.read bytes with
    | ok sheet => exact .inr ⟨_, .readSheet h⟩
    | error e => exact .inr ⟨_, .fail (.sheet h)⟩
  | read p sheet =>
    have hruns := runs_run o p sheet.records
    cases h : (p.run o.policy sheet.records).result with
    | ok out => exact .inr ⟨_, .run hruns h⟩
    | error e => exact .inr ⟨_, .fail (.record hruns h)⟩
  | made text =>
    cases given : o.output with
    | none => exact .inr ⟨_, .print given⟩
    | some path =>
      cases h : w.files.locateOutput ⟨path⟩ with
      | ok names => exact .inr ⟨_, .create given h⟩
      | error problem => exact .inr ⟨_, .fail (.output given h)⟩
  | created names text => exact .inr ⟨_, .write⟩
  | ended succeeded => exact .inl ⟨succeeded, rfl⟩

/-- The command ends from wherever it has come to. -/
theorem exists_steps_ended (o : Options) (s : State) :
    ∃ succeeded w, Steps o s ⟨.ended succeeded, w⟩ := by
  induction hrank : s.stage.rank using Nat.strongRecOn generalizing s with
  | ind n ih =>
    obtain ⟨stage, w⟩ := s
    rcases exists_step o stage w with ⟨succeeded, rfl⟩ | ⟨t, step⟩
    · exact ⟨succeeded, w, .refl⟩
    · obtain ⟨succeeded, w', steps⟩ := ih _ (hrank ▸ step.rank_lt) t rfl
      exact ⟨succeeded, w', .head step steps⟩

end RecordScript.Command
