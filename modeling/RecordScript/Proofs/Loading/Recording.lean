import RecordScript.Proofs.Loading.Expansion

/-!
# Expansion that is recorded

The expansion of imports once more, with the steps written one after another behind those that stand
there already, and with a record of every call of one of its four parts: which part it was, what it
found, what it left and whether it failed. Apart from the record, it does what the expansion does.
-/

namespace RecordScript

open Result

variable [RegexEngine]

namespace Expansion

/-- A call of one of the parts of which an expansion consists. All of them work for a program of a
given directory. -/
inductive Part where
  /-- Statements, whose steps are written behind the others. -/
  | statements (dir : Option SourcePath) (ss : List Statement)
  /-- Statements of a rule, whose steps become a list of their own. -/
  | block (dir : Option SourcePath) (ss : List Statement)
  /-- A directive that stands among the statements. -/
  | directive (dir : Option SourcePath) (d : Directive)
  /-- The import of a path that a directive at the position names. -/
  | importing (dir : Option SourcePath) (path : String) (pos : Position)

/-- How far an expansion has come: the stack of imports, and the steps that have been written. -/
structure Progress where
  stack : ImportStack
  out : List Step

/-- A call that has ended: what it found, what it left, and the error if it failed. -/
structure Visit where
  part : Part
  before : Progress
  after : Progress
  error? : Option LoadError

/-- How far an expansion has come, with the calls that have ended, the latest one last. -/
structure Journal extends Progress where
  visits : List Visit

/-- An expansion that is recorded. -/
abbrev Recording := ExceptT LoadError (StateM Journal)

namespace Recording

variable {α β : Type}

/-- Writes a step behind the others. -/
def emit (step : Step) : Recording Unit := fun j => (.ok (), { j with out := j.out ++ [step] })

/-- The steps that a computation writes, which then are not written. -/
def collect (x : Recording Unit) : Recording (List Step) := fun j =>
  let (result, j') := x { j with out := [] }
  (result.map fun _ => j'.out, { j' with out := j.out })

/-- Runs a computation with one more source on the stack. -/
def within (id : SourcePath) (x : Recording α) : Recording α := fun j =>
  let (result, j') := x { j with stack := j.stack.push id }
  (result, { j' with stack := j'.stack.pop id })

/-- The error of a computation that has failed. -/
def errorOf? : Except LoadError α → Option LoadError
  | .ok _ => none
  | .error e => some e

/-- Runs the computation that a call consists of, and notes the call. -/
def noted (part : Part) (x : Recording α) : Recording α := fun j =>
  let (result, j') := x j
  let visit := ⟨part, j.toProgress, j'.toProgress, errorOf? result⟩
  (result, { j' with visits := j'.visits ++ [visit] })

/-- The call for a block, where `x` writes the steps of its statements. -/
def notedBlock (dir : Option SourcePath) (ss : List Statement) (x : Recording Unit) :
    Recording (List Step) :=
  noted (.block dir ss) (collect (noted (.statements dir ss) x))

section Statements

variable (dir : Option SourcePath) (directive : Directive → Recording Unit)

mutual

/-- Writes the steps that a statement stands for, where `directive` writes those of a directive. -/
def writeStatement : Statement → Recording Unit
  | .assign pos field value => emit (.assign pos field value)
  | .call pos function args => emit (.call pos function args)
  | .directive d => directive d
  | .rule branches otherwise => do
    let arms ← makeArms branches
    match otherwise with
    | some body =>
      let steps ← notedBlock dir body (writeStatements body)
      emit (.rule arms (some steps))
    | none => emit (.rule arms none)

/-- The arms that branches stand for. -/
def makeArms : List Branch → Recording (List Arm)
  | [] => return []
  | .mk condition body :: branches => do
    let steps ← notedBlock dir body (writeStatements body)
    let arms ← makeArms branches
    return .mk condition steps :: arms

/-- Writes the steps of one statement after the other. -/
def writeStatements : List Statement → Recording Unit
  | [] => return ()
  | s :: ss => do
    writeStatement s
    writeStatements ss

end

end Statements

/-- The call for an import, where `directive` is the call for a directive in a given directory. -/
def importWith (resolve : Resolver) (directive : Option SourcePath → Directive → Recording Unit)
    (dir : Option SourcePath) (path : String) (pos : Position) : Recording Unit :=
  noted (.importing dir path pos) fun j =>
    match resolve path dir with
    | .error problem => (.error (.badImport path pos problem), j)
    | .ok source =>
      if j.stack.isActive source.id then
        (.error (.importCycle (j.stack.chain ++ [source.id])), j)
      else
        match readSource source with
        | .error e => (.error e, j)
        | .ok file =>
          let dir := source.id.parent?
          within source.id (noted (.statements dir file.statements)
            (writeStatements dir (directive dir) file.statements)) j

/-- The call for a directive, where at most `depth` imports can be nested. -/
def directive (resolve : Resolver) : Nat → Option SourcePath → Directive → Recording Unit
  | 0, dir, d => noted (.directive dir d) fun j => (.error (.importCycle j.stack.chain), j)
  | depth + 1, dir, d => noted (.directive dir d) <|
    match importPath d with
    | .error fault => throw (.badDirective d.position fault)
    | .ok path => importWith resolve (directive resolve depth) dir path d.position

section Calls

variable (resolve : Resolver) (depth : Nat) (dir : Option SourcePath)

/-- The call for statements whose steps are written behind the others. -/
def statements (ss : List Statement) : Recording Unit :=
  noted (.statements dir ss) (writeStatements dir (directive resolve depth dir) ss)

/-- The call for statements whose steps become a list of their own. -/
def block (ss : List Statement) : Recording (List Step) :=
  notedBlock dir ss (writeStatements dir (directive resolve depth dir) ss)

/-- The call for an import. -/
def importing (path : String) (pos : Position) : Recording Unit :=
  importWith resolve (directive resolve depth) dir path pos

end Calls

/-- The error of a computation, if it fails, and the journal that it leaves. -/
def outcome {α : Type} (x : Recording α) (j : Journal) : Option LoadError × Journal :=
  (errorOf? (x j).1, (x j).2)

end Recording

/-- Makes a call: its error, if it fails, and the journal that it leaves. -/
def Part.run (resolve : Resolver) (depth : Nat) : Part → Journal → Option LoadError × Journal
  | .statements dir ss => (Recording.statements resolve depth dir ss).outcome
  | .block dir ss => (Recording.block resolve depth dir ss).outcome
  | .directive dir d => (Recording.directive resolve depth dir d).outcome
  | .importing dir path pos => (Recording.importing resolve depth dir path pos).outcome

/-- The expansion that a call records. -/
def Part.expansion (library : Library) (depth : Nat) : Part → Expansion (List Step)
  | .statements dir ss | .block dir ss => expandBlock (splice library depth dir) ss
  | .directive dir d => splice library depth dir d
  | .importing dir path pos =>
    splice library (depth + 1) dir ⟨"import", [.literal pos (.string path)], true, pos⟩

namespace Recording

variable {α β : Type}

/-! ### A recorded expansion does what the expansion does -/

/-- The computation makes what the expansion gives, and leaves the written steps as they are. -/
def Makes (x : Recording α) (y : Expansion α) : Prop :=
  ∀ j, ∃ visits, x j = ((y j.stack).1, ⟨⟨(y j.stack).2, j.out⟩, visits⟩)

/-- The computation writes the steps that the expansion gives. -/
def Writes (x : Recording Unit) (y : Expansion (List Step)) : Prop :=
  ∀ j, ∃ out visits, x j = ((y j.stack).1.map fun _ => (), ⟨⟨(y j.stack).2, out⟩, visits⟩) ∧
    ∀ steps, (y j.stack).1 = .ok steps → out = j.out ++ steps

theorem makes_pure (a : α) : Makes (pure a) (pure a) := fun j => ⟨j.visits, rfl⟩

theorem writes_nothing : Writes (pure ()) (pure []) := by
  intro j
  refine ⟨j.out, j.visits, rfl, fun steps h => ?_⟩
  obtain rfl : [] = steps := Except.ok.inj h
  exact (List.append_nil j.out).symm

theorem writes_emit (step : Step) : Writes (emit step) (pure [step]) := by
  intro j
  refine ⟨j.out ++ [step], j.visits, rfl, fun steps h => ?_⟩
  obtain rfl : [step] = steps := Except.ok.inj h
  rfl

theorem Makes.bind {x : Recording α} {y : Expansion α} {f : α → Recording β} {g : α → Expansion β}
    (hx : x.Makes y) (hf : ∀ a, (f a).Makes (g a)) : Makes (x >>= f) (y >>= g) := by
  intro j
  obtain ⟨visits, hj⟩ := hx j
  rw [bind_apply, hj, bind_apply]
  rcases y j.stack with ⟨e | a, stack⟩
  · exact ⟨visits, rfl⟩
  · exact hf a ⟨⟨stack, j.out⟩, visits⟩

theorem Makes.bind_writes {x : Recording α} {y : Expansion α} {f : α → Recording Unit}
    {g : α → Expansion (List Step)} (hx : x.Makes y) (hf : ∀ a, (f a).Writes (g a)) :
    Writes (x >>= f) (y >>= g) := by
  intro j
  obtain ⟨visits, hj⟩ := hx j
  rw [bind_apply, hj, bind_apply]
  rcases y j.stack with ⟨e | a, stack⟩
  · exact ⟨j.out, visits, rfl, fun steps h => by cases h⟩
  · exact hf a ⟨⟨stack, j.out⟩, visits⟩

/-- Steps that are written one after the other stand behind each other. -/
theorem Writes.andThen {x x' : Recording Unit} {y y' : Expansion (List Step)} (hx : x.Writes y)
    (hx' : x'.Writes y') :
    Writes (do x; x') (do let steps ← y; let others ← y'; return steps ++ others) := by
  intro j
  obtain ⟨out, visits, hj, hout⟩ := hx j
  rw [bind_apply, hj, bind_apply]
  rcases hy : y j.stack with ⟨e | steps, stack⟩
  · exact ⟨out, visits, rfl, fun steps h => by cases h⟩
  · obtain rfl := hout steps (congrArg Prod.fst hy)
    obtain ⟨out', visits', hj', hout'⟩ := hx' ⟨⟨stack, j.out ++ steps⟩, visits⟩
    simp only [Except.map, hj', bind_apply]
    rcases hy' : y' stack with ⟨e | others, stack'⟩
    · exact ⟨out', visits', rfl, fun steps h => by cases h⟩
    · refine ⟨out', visits', rfl, fun both h => ?_⟩
      obtain rfl : steps ++ others = both := Except.ok.inj h
      rw [hout' others (congrArg Prod.fst hy'), List.append_assoc]

theorem Makes.noted {x : Recording α} {y : Expansion α} (h : x.Makes y) (part : Part) :
    (noted part x).Makes y := by
  intro j
  obtain ⟨visits, hj⟩ := h j
  simp only [Recording.noted, hj]
  exact ⟨_, rfl⟩

theorem Writes.noted {x : Recording Unit} {y : Expansion (List Step)} (h : x.Writes y)
    (part : Part) : (noted part x).Writes y := by
  intro j
  obtain ⟨out, visits, hj, hout⟩ := h j
  simp only [Recording.noted, hj]
  exact ⟨out, _, rfl, hout⟩

theorem Writes.collect {x : Recording Unit} {y : Expansion (List Step)} (h : x.Writes y) :
    (collect x).Makes y := by
  intro j
  obtain ⟨out, visits, hj, hout⟩ := h { j with out := [] }
  simp only [Recording.collect, hj]
  cases hy : (y j.stack).1 with
  | error e => exact ⟨visits, rfl⟩
  | ok steps =>
    obtain rfl := hout steps hy
    exact ⟨visits, rfl⟩

theorem Writes.within {x : Recording Unit} {y : Expansion (List Step)} (h : x.Writes y)
    (id : SourcePath) : (within id x).Writes (Expansion.within id y) := by
  intro j
  obtain ⟨out, visits, hj, hout⟩ := h { j with stack := j.stack.push id }
  simp only [Recording.within, hj, within_apply]
  exact ⟨out, visits, rfl, hout⟩

theorem Writes.notedBlock {x : Recording Unit} {y : Expansion (List Step)} (h : x.Writes y)
    (dir : Option SourcePath) (ss : List Statement) : (notedBlock dir ss x).Makes y :=
  ((h.noted _).collect).noted _

section Statements

variable {dir : Option SourcePath} {directive : Directive → Recording Unit}
  {splice : Directive → Expansion (List Step)}

theorem writeStatements_writes_of_forall {ss : List Statement}
    (h : ∀ s ∈ ss, (writeStatement dir directive s).Writes (expandStatement splice s)) :
    (writeStatements dir directive ss).Writes (expandBlock splice ss) := by
  induction ss with
  | nil => exact writes_nothing
  | cons s ss ih =>
    obtain ⟨hs, hss⟩ := List.forall_mem_cons.mp h
    rw [writeStatements, expandBlock]
    exact hs.andThen (ih hss)

theorem makeArms_makes_of_forall {branches : List Branch}
    (h : ∀ b ∈ branches, ∀ s ∈ b.body,
      (writeStatement dir directive s).Writes (expandStatement splice s)) :
    (makeArms dir directive branches).Makes (expandBranches splice branches) := by
  induction branches with
  | nil => exact makes_pure _
  | cons b branches ih =>
    obtain ⟨hb, hbranches⟩ := List.forall_mem_cons.mp h
    obtain ⟨condition, body⟩ := b
    rw [makeArms, expandBranches]
    exact ((writeStatements_writes_of_forall hb).notedBlock dir body).bind fun steps =>
      (ih hbranches).bind fun arms => makes_pure _

theorem writeStatement_writes (h : ∀ d, (directive d).Writes (splice d)) (s : Statement) :
    (writeStatement dir directive s).Writes (expandStatement splice s) := by
  induction s using StatementOf.inductionOn with
  | assign pos field value => exact writes_emit _
  | call pos function args => exact writes_emit _
  | directive d => exact h d
  | rule branches otherwise ihb iho =>
    rw [writeStatement, expandStatement]
    refine (makeArms_makes_of_forall ihb).bind_writes fun arms => ?_
    cases otherwise with
    | none => exact writes_emit _
    | some body =>
      exact ((writeStatements_writes_of_forall (iho body rfl)).notedBlock dir body).bind_writes
        fun steps => writes_emit _

/-- Statements are written as they are expanded, if their directives are. -/
theorem writeStatements_writes (h : ∀ d, (directive d).Writes (splice d)) (ss : List Statement) :
    (writeStatements dir directive ss).Writes (expandBlock splice ss) :=
  writeStatements_writes_of_forall fun s _ => writeStatement_writes h s

end Statements

section Calls

variable {library : Library}

/-- An import is recorded as it is expanded, if the directives of its source are. -/
theorem importWith_writes {depth : Nat} {directive : Option SourcePath → Directive → Recording Unit}
    (h : ∀ dir d, (directive dir d).Writes (splice library depth dir d)) (dir : Option SourcePath)
    {d : Directive} {path : String} (hpath : importPath d = .ok path) :
    (importWith library.resolve directive dir path d.position).Writes
      (splice library (depth + 1) dir d) := by
  refine Writes.noted (fun j => ?_) _
  rw [splice_succ_apply, importSource, hpath]
  dsimp only
  cases library.resolve path dir with
  | error problem => exact ⟨_, _, rfl, fun steps h => by cases h⟩
  | ok source =>
    dsimp only
    cases hactive : j.stack.isActive source.id with
    | true => exact ⟨_, _, rfl, fun steps h => by cases h⟩
    | false =>
      simp only [Bool.false_eq_true, if_false]
      cases readSource source with
      | error e => exact ⟨_, _, rfl, fun steps h => by cases h⟩
      | ok file =>
        exact ((writeStatements_writes (h _) file.statements).noted _).within source.id j

/-- A directive is recorded as it is expanded. -/
theorem directive_writes (depth : Nat) (dir : Option SourcePath) (d : Directive) :
    (directive library.resolve depth dir d).Writes (splice library depth dir d) := by
  induction depth generalizing dir d with
  | zero =>
    refine Writes.noted (fun j => ?_) _
    exact ⟨j.out, j.visits, rfl, fun steps h => by cases h⟩
  | succ depth ih =>
    rw [directive]
    cases hpath : importPath d with
    | ok path => exact (importWith_writes ih dir hpath).noted _
    | error fault =>
      refine Writes.noted (fun j => ?_) _
      rw [splice_succ_apply, importSource, hpath]
      exact ⟨j.out, j.visits, rfl, fun steps h => by cases h⟩

theorem statements_writes (depth : Nat) (dir : Option SourcePath) (ss : List Statement) :
    (statements library.resolve depth dir ss).Writes
      ((Part.statements dir ss).expansion library depth) :=
  (writeStatements_writes (directive_writes depth dir) ss).noted _

theorem block_makes (depth : Nat) (dir : Option SourcePath) (ss : List Statement) :
    (block library.resolve depth dir ss).Makes ((Part.block dir ss).expansion library depth) :=
  (writeStatements_writes (directive_writes depth dir) ss).notedBlock dir ss

theorem importing_writes (depth : Nat) (dir : Option SourcePath) (path : String) (pos : Position) :
    (importing library.resolve depth dir path pos).Writes
      ((Part.importing dir path pos).expansion library depth) := by
  have hpath : importPath ⟨"import", [.literal pos (.string path)], true, pos⟩ = .ok path := rfl
  exact importWith_writes (directive_writes depth) dir hpath

end Calls

end Recording

end Expansion

end RecordScript
