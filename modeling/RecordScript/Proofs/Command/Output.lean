import RecordScript.Pattern.PlaceEngine
import RecordScript.Proofs.Command.Reached
import RecordScript.Proofs.Loading.Validity

/-!
# Output of the command

The command touches nothing before its run has succeeded: until the program has been loaded, the
input has been read and all records have been taken through the program, every file is as it was and
the standard output is empty. What it writes then does not depend on where the output goes, even if
it takes the place of the input.
-/

namespace RecordScript.Command

variable [RegexEngine] {fs : FileSystem} {stdin : List UInt8} {o : Options}

/-! ### Before the output -/

/-- Until the run has succeeded, nothing is touched. -/
theorem Reached.untouched {s : State} (h : Reached fs stdin o s) :
    (∃ log text, Transforms fs stdin o ⟨log, .ok text⟩) ∨
      s.world.files = fs ∧ s.world.stdout = "" := by
  cases h with
  | made h => exact .inl ⟨_, _, h⟩
  | created h => exact .inl ⟨_, _, h⟩
  | succeeded h => exact .inl ⟨_, _, h⟩
  | _ => exact .inr ⟨rfl, rfl⟩

/-- A run that fails leaves nothing behind. -/
theorem Reached.untouched_of_failed {w : World} (h : Reached fs stdin o ⟨.ended false, w⟩) :
    w.files = fs ∧ w.stdout = "" := by
  cases h
  exact ⟨rfl, rfl⟩

/-- Where the run can fail, nothing is ever touched, and the command does not succeed. -/
theorem Reached.untouched_of_error {s : State} {x : Outcome Failure String} {f : Failure}
    (h : Reached fs stdin o s) (hx : Transforms fs stdin o x) (hf : x.result = .error f) :
    s.world.files = fs ∧ s.world.stdout = "" ∧ s.stage ≠ .ended true := by
  have hnever : ∀ {log text}, ¬ Transforms fs stdin o ⟨log, .ok text⟩ := by
    intro log text hmade
    cases hf.symm.trans (hmade.result_eq_ok hx rfl)
  cases h with
  | made h => exact absurd h hnever
  | created h => exact absurd h hnever
  | succeeded h => exact absurd h hnever
  | _ => exact ⟨rfl, rfl, by simp [start]⟩

/-- Nothing has been looked at when the program is found to be wrong. -/
theorem Steps.eq_of_program_error {e : LoadError} {s : State}
    (he : Program.load fs.toLibrary o.loadOptions o.program = .error e)
    (h : Steps o (start fs stdin) s) :
    s = start fs stdin ∨ s = ⟨.ended false, ⟨fs, stdin, "", (Failure.program e).report⟩⟩ := by
  induction h with
  | refl => exact .inl rfl
  | tail _ step ih =>
    rcases ih with rfl | rfl
    · cases step with
      | load h => cases he.symm.trans h
      | fail h =>
        cases h with
        | program h =>
          cases he.symm.trans h
          exact .inr rfl
    · cases step with
      | fail h => cases h

/-! ### What the command reports -/

/-- One record after another, the command can report only one thing. -/
theorem Reached.report_eq {succeeded : Bool} {w : World} (hone : o.parallel = false)
    (h : Reached fs stdin o ⟨.ended succeeded, w⟩) :
    (⟨succeeded, w.stdout, w.stderr, w.files⟩ : Report) = run fs stdin o := by
  cases h with
  | @succeeded log text stdout left files h writes =>
    rw [run, ← h.eq_transform hone]
    simp only [Except.bind, writes]
  | failed h fails =>
    rw [run, ← h.eq_transform hone]
    simp only [fails]

/-- What one hand does, several hands can do as well. -/
theorem Step.of_one {s t : State} (h : Step { o with parallel := false } s t) : Step o s t := by
  have hruns : ∀ {p records x}, Runs { o with parallel := false } p records x →
      Runs o p records x := by
    intro p records x h
    obtain rfl : x = p.run o.policy records := h
    exact runs_run o p records
  cases h with
  | load h => exact .load h
  | openFile given h => exact .openFile given h
  | openStdin absent => exact .openStdin absent
  | fetchFile h => exact .fetchFile h
  | fetchStdin => exact .fetchStdin
  | readSheet h => exact .readSheet h
  | run h succeeded => exact .run (hruns h) succeeded
  | create given h => exact .create given h
  | write => exact .write
  | print absent => exact .print absent
  | fail h =>
    refine .fail ?_
    cases h with
    | program h => exact .program h
    | input given h => exact .input given h
    | noBytes h => exact .noBytes h
    | sheet h => exact .sheet h
    | record h failed => exact .record (hruns h) failed
    | output given h => exact .output given h

/-- What the command computes is one of the things that it can report. -/
theorem responds_execute (fs : FileSystem) (stdin : List UInt8) (args : List String) :
    Responds fs stdin args (execute fs stdin args) := by
  by_cases hasked : ∃ o, Request.ofArguments args = .ok (.run o)
  · obtain ⟨o, hasked⟩ := hasked
    obtain ⟨succeeded, w, steps⟩ :=
      exists_steps_ended { o with parallel := false } (start fs stdin)
    have hreport := (Steps.reached steps).report_eq rfl
    have hexecute : execute fs stdin args = run fs stdin { o with parallel := false } := by
      rw [execute, hasked]
      rfl
    rw [hexecute, ← hreport]
    exact .ran hasked (steps.lift id fun _ _ step => step.of_one)
  · exact .answered fun o h => hasked ⟨o, h⟩

/-- A failure is reported without a trace in the files or in the standard output. -/
theorem Responds.untouched {args : List String} {r : Report} (h : Responds fs stdin args r)
    (hfailed : r.succeeded = false) : r.files = fs ∧ r.stdout = "" := by
  cases h with
  | ran asked steps =>
    cases hfailed
    exact (Steps.reached steps).untouched_of_failed
  | answered asked =>
    revert hfailed
    rw [execute]
    cases hrequest : Request.ofArguments args with
    | error problem => simp
    | ok request =>
      cases request with
      | run o => exact absurd hrequest (asked o)
      | help => simp
      | version => simp

/-! ### Where the output goes -/

/-- The text stands where the output goes, and nothing else has changed. -/
def Leaves (fs : FileSystem) (text : String) (w : World) : Option String → Prop
  | none => w.stdout = text ∧ w.files = fs
  | some path => w.stdout = "" ∧ ∃ names, fs.locateOutput ⟨path⟩ = .ok names ∧
    w.files.readNames names = .ok (Text.encodeUtf8 text) ∧
    ∀ other, other ≠ names → w.files.readNames other = fs.readNames other

theorem leaves_of_writeOutput {text : String} {output : Option String} {w : World}
    (h : writeOutput fs text output = .ok (w.stdout, w.files)) : Leaves fs text w output := by
  cases output with
  | none =>
    obtain ⟨hstdout, hfiles⟩ := Prod.mk.inj (Except.ok.inj h)
    exact ⟨hstdout.symm, hfiles.symm⟩
  | some path =>
    rw [writeOutput] at h
    split at h
    · cases h
    · rename_i names hnames
      obtain ⟨hstdout, hfiles⟩ := Prod.mk.inj (Except.ok.inj h)
      refine ⟨hstdout.symm, names, hnames, ?_, ?_⟩
      · rw [← hfiles, FileSystem.readNames_write_self]
      · intro other hother
        rw [← hfiles, FileSystem.readNames_write_of_ne _ hother]

/-- Once its text has been made, the command ends with it where the output goes, unless there is no
such place. -/
theorem Reached.output {log : List String} {text : String} {output : Option String}
    {succeeded : Bool} {w : World} (hx : Transforms fs stdin o ⟨log, .ok text⟩)
    (h : Reached fs stdin { o with output } ⟨.ended succeeded, w⟩) :
    if succeeded then Leaves fs text w output
    else ∃ path problem, output = some path ∧ fs.locateOutput ⟨path⟩ = .error problem := by
  cases h with
  | succeeded h writes =>
    obtain rfl := Except.ok.inj (hx.result_eq_ok h.of_output rfl)
    exact leaves_of_writeOutput writes
  | failed h fails =>
    rw [hx.result_eq_ok h.of_output rfl] at fails
    cases output with
    | none => cases fails
    | some path =>
      have hwrite : writeOutput fs text (some path) = .error _ := fails
      rw [writeOutput] at hwrite
      split at hwrite
      · rename_i problem hproblem
        exact ⟨path, problem, rfl, hproblem⟩
      · cases hwrite

/-! ### The output waits for success -/

/-- The output is made only when everything else has succeeded. What the command computes is one of
the things that it can report, and no failure that it can report leaves a trace. It ends from
wherever it has come to. Until the program has been loaded, the input has been read and the records
have been taken through the program, nothing is touched, and if one of these can fail, nothing ever
is. A program that cannot be loaded is reported before anything else has been looked at. Otherwise
the same text ends up wherever the output goes, and it can go to the file that the input comes
from. -/
theorem output_waits_for_success (fs : FileSystem) (stdin : List UInt8) :
    (∀ args, Responds fs stdin args (execute fs stdin args) ∧
      ∀ r, Responds fs stdin args r → r.succeeded = false → r.files = fs ∧ r.stdout = "") ∧
    (∀ o, Transforms fs stdin o (transform fs stdin o)) ∧
    (∀ o s, Steps o (start fs stdin) s →
      (∃ succeeded w, Steps o s ⟨.ended succeeded, w⟩) ∧
      ((∃ log text, Transforms fs stdin o ⟨log, .ok text⟩) ∨
        s.world.files = fs ∧ s.world.stdout = "") ∧
      (∀ x f, Transforms fs stdin o x → x.result = .error f →
        s.world.files = fs ∧ s.world.stdout = "" ∧ s.stage ≠ .ended true) ∧
      ∀ e, Program.load fs.toLibrary o.loadOptions o.program = .error e →
        s = start fs stdin ∨ s = ⟨.ended false, ⟨fs, stdin, "", (Failure.program e).report⟩⟩) ∧
    (∀ o log text, Transforms fs stdin o ⟨log, .ok text⟩ → ∀ output succeeded w,
      Steps { o with output } (start fs stdin) ⟨.ended succeeded, w⟩ →
        if succeeded then Leaves fs text w output
        else ∃ path problem, output = some path ∧ fs.locateOutput ⟨path⟩ = .error problem) ∧
    ∀ path names, fs.locate ⟨path⟩ = .ok names → fs.isDirectory names = false →
      fs.locateOutput ⟨path⟩ = .ok names := by
  refine ⟨?_, transforms_transform fs stdin, ?_, ?_, ?_⟩
  · exact fun args => ⟨responds_execute fs stdin args, fun r h => h.untouched⟩
  · intro o s steps
    have hreached := Steps.reached steps
    exact ⟨exists_steps_ended o s, hreached.untouched,
      fun x f hx hf => hreached.untouched_of_error hx hf,
      fun e he => steps.eq_of_program_error he⟩
  · exact fun o log text hx output succeeded w steps => (Steps.reached steps).output hx
  · exact fun path names hnames hfile => FileSystem.locateOutput_of_locate hnames hfile

end RecordScript.Command

namespace RecordScript.Command.InPlace

/-- A directory with a program and a sheet. -/
def files : FileSystem where
  workingDir := []
  files := [(["m"], Text.encodeUtf8 "x = \"new\""), (["in"], Text.encodeUtf8 "x\nold\n")]

/-- The sheet is taken through the program, and the output replaces it. -/
def options : Options := ⟨"m", some "in", some "in", .abort, false, false⟩

/-- The program as it is loaded. -/
def loaded : Program := ⟨{}, [.assign ⟨"/m", 1, 1⟩ "x" (.literal ⟨"/m", 1, 5⟩ (.string "new"))]⟩

theorem load_files : Program.load files.toLibrary options.loadOptions options.program =
    .ok loaded := by
  have hsource : files.toLibrary.resolve "m" none = .ok ⟨⟨"/m"⟩, "x = \"new\""⟩ := by
    decide +kernel
  have hread : Expansion.readSource ⟨⟨"/m"⟩, "x = \"new\""⟩ = .ok
      ⟨[], [.assign ⟨"/m", 1, 1⟩ "x" (.literal ⟨"/m", 1, 5⟩ (.string "new"))]⟩ := by
    decide +kernel
  rw [Program.load, options, hsource]
  exact Program.ofSource_eq_ok.mpr ⟨_, _, hread, by rfl, by rfl, by cbv⟩

theorem transforms_files : Transforms files [] options ⟨[], .ok "x\nnew\n"⟩ := by
  have hfetch : inputBytes files [] options.input = .ok (Text.encodeUtf8 "x\nold\n") := by rfl
  have hread : Csv.read (Text.encodeUtf8 "x\nold\n") =
      .ok ⟨["x"], [⟨[("x", "old")], by decide⟩]⟩ := by
    decide +kernel
  have hrun := Transforms.records load_files hfetch hread (runs_run options loaded _)
  exact hrun

theorem load_missing : Program.load files.toLibrary options.loadOptions "n" =
    .error (.unreadable "n" .noSuchFile) := by
  have hsource : files.toLibrary.resolve "n" none = .error .noSuchFile := by rfl
  rw [Program.load, hsource]

/-- The sheet is replaced by the output, and nothing else is. With a program that is not there, all
stays as it is. -/
theorem output_waits_for_success_inPlace :
    (∃ w, Steps options (start files []) ⟨.ended true, w⟩) ∧
    (∀ succeeded w, Steps options (start files []) ⟨.ended succeeded, w⟩ →
      succeeded = true ∧ w.stdout = "" ∧
        w.files.readNames ["in"] = .ok (Text.encodeUtf8 "x\nnew\n") ∧
        w.files.readNames ["m"] = files.readNames ["m"]) ∧
    ∀ succeeded w, Steps { options with program := "n" } (start files []) ⟨.ended succeeded, w⟩ →
      succeeded = false ∧ w.files = files ∧ w.stdout = "" ∧
        w.stderr = (Failure.program (.unreadable "n" .noSuchFile)).report := by
  obtain ⟨-, -, hway, hwrites, hplace⟩ := output_waits_for_success files []
  have hlocate : files.locate ⟨"in"⟩ = .ok ["in"] := by rfl
  have hfile : files.isDirectory ["in"] = false := by rfl
  have hinput := hplace "in" ["in"] hlocate hfile
  have hended : ∀ succeeded w, Steps options (start files []) ⟨.ended succeeded, w⟩ →
      succeeded = true ∧ Leaves files "x\nnew\n" w (some "in") := by
    intro succeeded w steps
    have houtput := hwrites options [] "x\nnew\n" transforms_files (some "in") succeeded w steps
    cases succeeded with
    | true => exact ⟨rfl, houtput⟩
    | false =>
      obtain ⟨path, problem, hpath, hproblem⟩ := houtput
      cases hpath
      cases hinput.symm.trans hproblem
  refine ⟨?_, ?_, ?_⟩
  · obtain ⟨⟨succeeded, w, steps⟩, -⟩ := hway options _ .refl
    obtain ⟨rfl, -⟩ := hended succeeded w steps
    exact ⟨w, steps⟩
  · intro succeeded w steps
    obtain ⟨hsucceeded, hstdout, names, hnames, hself, hothers⟩ := hended succeeded w steps
    cases hinput.symm.trans hnames
    exact ⟨hsucceeded, hstdout, hself, hothers ["m"] (by decide)⟩
  · intro succeeded w steps
    obtain ⟨-, -, -, hprogram⟩ := hway { options with program := "n" } _ steps
    rcases hprogram _ load_missing with h | h
    · cases h
    · cases h
      exact ⟨rfl, rfl, rfl, rfl⟩

end RecordScript.Command.InPlace
