import RecordScript.Proofs.Command.Stages
import RecordScript.Proofs.Source.Output

/-!
# What the command has done at each stage

A stage of the command can be told from what the command has been given: which of its parts have
succeeded, what the files hold and what stands in the streams of output. All runs of the command
make the same text or none, also if the records are processed by several hands.
-/

namespace RecordScript.Command

open Result

variable [RegexEngine]

/-- What can come of taking the input through the program, up to the text that is to be written: one
of the parts fails, or all of them succeed. -/
inductive Transforms (fs : FileSystem) (stdin : List UInt8) (o : Options) :
    Outcome Failure String → Prop
  | program {e : LoadError} (h : Program.load fs.toLibrary o.loadOptions o.program = .error e) :
    Transforms fs stdin o ⟨[], .error (.program e)⟩
  | input {p : Program} {f : Failure}
      (loads : Program.load fs.toLibrary o.loadOptions o.program = .ok p)
      (h : inputBytes fs stdin o.input = .error f) : Transforms fs stdin o ⟨[], .error f⟩
  | sheet {p : Program} {bytes : List UInt8} {e : Csv.ReadError}
      (loads : Program.load fs.toLibrary o.loadOptions o.program = .ok p)
      (fetches : inputBytes fs stdin o.input = .ok bytes) (h : Csv.read bytes = .error e) :
    Transforms fs stdin o ⟨[], .error (.sheet e)⟩
  | records {p : Program} {bytes : List UInt8} {sheet : Csv.Sheet}
      {x : Outcome RecordError RunOutput}
      (loads : Program.load fs.toLibrary o.loadOptions o.program = .ok p)
      (fetches : inputBytes fs stdin o.input = .ok bytes) (reads : Csv.read bytes = .ok sheet)
      (h : Runs o p sheet.records x) :
    Transforms fs stdin o ⟨x.log, (x.result.mapError .record).map fun out =>
      Csv.write (p.fields sheet.headers) out.records⟩

variable {fs : FileSystem} {stdin : List UInt8} {o : Options}

/-! ### The text that is made -/

omit [RegexEngine] in
theorem ofExcept_ok_bind {ε α β : Type} (a : α) (f : α → Outcome ε β) :
    Outcome.ofExcept (.ok a) >>= f = f a := rfl

omit [RegexEngine] in
theorem ofExcept_error_bind {ε α β : Type} (e : ε) (f : α → Outcome ε β) :
    Outcome.ofExcept (.error e) >>= f = ⟨[], .error e⟩ := rfl

/-- The input goes through the program as soon as both can be read. -/
theorem transform_eq_run {p : Program} {bytes : List UInt8} {sheet : Csv.Sheet}
    (loads : Program.load fs.toLibrary o.loadOptions o.program = .ok p)
    (fetches : inputBytes fs stdin o.input = .ok bytes) (reads : Csv.read bytes = .ok sheet) :
    transform fs stdin o = ⟨(p.run o.policy sheet.records).log,
      ((p.run o.policy sheet.records).result.mapError .record).map fun out =>
        Csv.write (p.fields sheet.headers) out.records⟩ := by
  simp only [transform, loads, fetches, reads, mapError_ok, ofExcept_ok_bind]
  obtain ⟨log, result⟩ := p.run o.policy sheet.records
  cases result with
  | ok out => simp [Outcome.mapError, bind, Outcome.andThen, Outcome.after, pure, Outcome.succeed,
      Except.map, Except.mapError]
  | error e => rfl

/-- The command takes the input through the program in one of the ways in which that can be done. -/
theorem transforms_transform (fs : FileSystem) (stdin : List UInt8) (o : Options) :
    Transforms fs stdin o (transform fs stdin o) := by
  cases loads : Program.load fs.toLibrary o.loadOptions o.program with
  | error e =>
    simp only [transform, loads, mapError_error, ofExcept_error_bind]
    exact .program loads
  | ok p =>
    cases fetches : inputBytes fs stdin o.input with
    | error f =>
      simp only [transform, loads, fetches, mapError_ok, ofExcept_ok_bind, ofExcept_error_bind]
      exact .input loads fetches
    | ok bytes =>
      cases reads : Csv.read bytes with
      | error e =>
        simp only [transform, loads, fetches, reads, mapError_ok, mapError_error, ofExcept_ok_bind,
          ofExcept_error_bind]
        exact .sheet loads fetches reads
      | ok sheet =>
        rw [transform_eq_run loads fetches reads]
        exact .records loads fetches reads (runs_run o p sheet.records)

/-- Whatever comes of it, the same text is made, or none is. -/
theorem Transforms.result_eq_ok {x y : Outcome Failure String} {text : String}
    (hx : Transforms fs stdin o x) (hy : Transforms fs stdin o y) (h : x.result = .ok text) :
    y.result = .ok text := by
  cases hx with
  | records loads fetches reads hruns =>
    obtain ⟨out, hout, rfl⟩ := map_eq_ok.mp h
    have hrun := (hruns.result_eq_ok_iff out).mp (mapError_eq_ok.mp hout)
    cases hy with
    | program h' => rw [loads] at h'; cases h'
    | input loads' h' => rw [fetches] at h'; cases h'
    | sheet loads' fetches' h' =>
      rw [fetches] at fetches'
      cases fetches'
      rw [reads] at h'
      cases h'
    | records loads' fetches' reads' hruns' =>
      rw [loads] at loads'
      rw [fetches] at fetches'
      cases loads'
      cases fetches'
      rw [reads] at reads'
      cases reads'
      rw [(hruns'.result_eq_ok_iff out).mpr hrun]
      rfl
  | program => cases h
  | input => cases h
  | sheet => cases h

/-- One record after another, there is only one thing that can come of it. -/
theorem Transforms.eq_transform {x : Outcome Failure String} (hone : o.parallel = false)
    (h : Transforms fs stdin o x) : x = transform fs stdin o := by
  cases h with
  | program h =>
    simp only [transform, h, mapError_error, ofExcept_error_bind]
  | input loads h =>
    simp only [transform, loads, h, mapError_ok, ofExcept_ok_bind, ofExcept_error_bind]
  | sheet loads fetches h =>
    simp only [transform, loads, fetches, h, mapError_ok, mapError_error, ofExcept_ok_bind,
      ofExcept_error_bind]
  | @records p bytes sheet x loads fetches reads h =>
    obtain rfl : x = p.run o.policy sheet.records := by simpa [Runs, hone] using h
    exact (transform_eq_run loads fetches reads).symm

/-- Where the output goes has no part in it. -/
theorem Transforms.of_output {x : Outcome Failure String} {output : Option String}
    (h : Transforms fs stdin { o with output } x) : Transforms fs stdin o x := by
  cases h with
  | program h => exact .program h
  | input loads h => exact .input loads h
  | sheet loads fetches h => exact .sheet loads fetches h
  | records loads fetches reads h => exact .records loads fetches reads h

/-! ### What holds on the way -/

/-- What holds of the command at each stage, seen from what it has been given. -/
inductive Reached (fs : FileSystem) (stdin : List UInt8) (o : Options) : State → Prop
  | called : Reached fs stdin o (start fs stdin)
  | loaded {p : Program} (loads : Program.load fs.toLibrary o.loadOptions o.program = .ok p) :
    Reached fs stdin o ⟨.loaded p, ⟨fs, stdin, "", ""⟩⟩
  | opened {p : Program} {source : Option (List String)}
      (loads : Program.load fs.toLibrary o.loadOptions o.program = .ok p)
      (opens : inputBytes fs stdin o.input =
        source.elim (.ok stdin) fun names => (fs.readNames names).mapError .noBytes) :
    Reached fs stdin o ⟨.opened p source, ⟨fs, stdin, "", ""⟩⟩
  | fetched {p : Program} {bytes left : List UInt8}
      (loads : Program.load fs.toLibrary o.loadOptions o.program = .ok p)
      (fetches : inputBytes fs stdin o.input = .ok bytes) :
    Reached fs stdin o ⟨.fetched p bytes, ⟨fs, left, "", ""⟩⟩
  | read {p : Program} {bytes left : List UInt8} {sheet : Csv.Sheet}
      (loads : Program.load fs.toLibrary o.loadOptions o.program = .ok p)
      (fetches : inputBytes fs stdin o.input = .ok bytes) (reads : Csv.read bytes = .ok sheet) :
    Reached fs stdin o ⟨.read p sheet, ⟨fs, left, "", ""⟩⟩
  | made {log : List String} {text : String} {left : List UInt8}
      (h : Transforms fs stdin o ⟨log, .ok text⟩) :
    Reached fs stdin o ⟨.made text, ⟨fs, left, "", lines log⟩⟩
  | created {log : List String} {text path : String} {left : List UInt8} {names : List String}
      (h : Transforms fs stdin o ⟨log, .ok text⟩) (given : o.output = some path)
      (locates : fs.locateOutput ⟨path⟩ = .ok names) :
    Reached fs stdin o ⟨.created names text, ⟨fs.write names [], left, "", lines log⟩⟩
  | succeeded {log : List String} {text stdout : String} {left : List UInt8} {files : FileSystem}
      (h : Transforms fs stdin o ⟨log, .ok text⟩)
      (writes : writeOutput fs text o.output = .ok (stdout, files)) :
    Reached fs stdin o ⟨.ended true, ⟨files, left, stdout, lines log⟩⟩
  | failed {x : Outcome Failure String} {f : Failure} {left : List UInt8}
      (h : Transforms fs stdin o x)
      (fails : x.result.bind (writeOutput fs · o.output) = .error f) :
    Reached fs stdin o ⟨.ended false, ⟨fs, left, "", lines x.log ++ f.report⟩⟩

theorem Fails.reached {stage : Stage} {w : World} {log : List String} {f : Failure}
    (h : Fails o w stage log f) (hs : Reached fs stdin o ⟨stage, w⟩) :
    Reached fs stdin o ⟨.ended false, w.tell (lines log ++ f.report)⟩ := by
  cases h with
  | program h =>
    cases hs
    exact .failed (.program h) rfl
  | input given h =>
    cases hs with
    | loaded loads =>
      refine .failed (.input loads ?_) rfl
      rw [given, inputBytes, h]
  | noBytes h =>
    cases hs with
    | opened loads opens =>
      refine .failed (.input loads ?_) rfl
      rw [opens, Option.elim_some, h, mapError_error]
  | sheet h =>
    cases hs with
    | fetched loads fetches => exact .failed (.sheet loads fetches h) rfl
  | @record p sheet x e h failed =>
    cases hs with
    | read loads fetches reads =>
      have hfailed := Transforms.records loads fetches reads h
      simp only [failed, mapError_error] at hfailed
      exact .failed hfailed rfl
  | output given h =>
    cases hs with
    | made hmade =>
      refine .failed hmade ?_
      show writeOutput fs _ o.output = _
      rw [given, writeOutput, h]

theorem Step.reached {s t : State} (h : Step o s t) (hs : Reached fs stdin o s) :
    Reached fs stdin o t := by
  cases h with
  | load h =>
    cases hs
    exact .loaded h
  | openFile given h =>
    cases hs with
    | loaded loads =>
      refine .opened loads ?_
      rw [given, inputBytes, h, Option.elim_some]
  | openStdin absent =>
    cases hs with
    | loaded loads =>
      refine .opened loads ?_
      rw [absent, inputBytes, Option.elim_none]
  | fetchFile h =>
    cases hs with
    | opened loads opens =>
      refine .fetched loads ?_
      rw [opens, Option.elim_some, h, mapError_ok]
  | fetchStdin =>
    cases hs with
    | opened loads opens => exact .fetched loads opens
  | readSheet h =>
    cases hs with
    | fetched loads fetches => exact .read loads fetches h
  | run h succeeded =>
    cases hs with
    | read loads fetches reads =>
      have hmade := Transforms.records loads fetches reads h
      rw [succeeded] at hmade
      exact .made hmade
  | create given h =>
    cases hs with
    | made hmade => exact .created hmade given h
  | write =>
    cases hs with
    | created hmade given locates =>
      rw [FileSystem.write_write]
      refine .succeeded hmade ?_
      rw [given, writeOutput, locates]
  | print absent =>
    cases hs with
    | made hmade =>
      refine .succeeded hmade ?_
      rw [absent, writeOutput]
      rfl
  | fail h => exact h.reached hs

theorem Steps.reached {s : State} (h : Steps o (start fs stdin) s) : Reached fs stdin o s := by
  induction h with
  | refl => exact .called
  | tail _ step ih => exact step.reached ih

end RecordScript.Command
