import RecordScript.Pattern.PlaceEngine
import RecordScript.Proofs.Evaluation.Unplaced
import RecordScript.Proofs.Grammar.Lines
import RecordScript.Proofs.Loading.Unbounded
import RecordScript.Proofs.Printing.RoundTrip
import RecordScript.Proofs.Source.Lookup
import RecordScript.Proofs.Syntax.Equality

/-!
# Imports and inclusion

A program that imports a text and the program that has this text in the place of the import are
loaded alike: one is loaded if the other is, and then they have the same configuration and the same
steps, up to positions.
-/

namespace RecordScript

open Result

variable [RegexEngine]

namespace Expansion

variable {resolve : Resolver} {id : SourcePath}

/-- A directive alone gives what it gives among statements. -/
theorem expandBlock_directive_gives {splice : Directive → Expansion (List Step)} {d : Directive}
    {stack : ImportStack} {out : List Step} :
    (expandBlock splice [.directive d]).Gives stack out ↔ (splice d).Gives stack out := by
  simp [expandBlock, expandStatement]

/-- An import stands for what the imported statements stand for in its place, if the imported source
stands in the same directory, is another one, and is all that the resolver has under its path. -/
theorem expands_directive_iff_inlined {d : Directive} {z : Source} {file : SourceFile}
    (hsource : importSource resolve id.parent? d = .ok z) (hread : readSource z = .ok file)
    (hparent : z.id.parent? = id.parent?) (hother : z.id.same id = false)
    (honly : resolve.Determines z) {out : List Step} :
    Expands resolve id [.directive d] out ↔ Expands resolve id file.statements out := by
  have hactive : (ImportStack.start id).isActive z.id = false := by
    simp [ImportStack.isActive, ImportStack.start, hother]
  constructor
  · rintro ⟨depth, h⟩
    rw [expandWithin_eq_ok, expandBlock_directive_gives] at h
    cases depth with
    | zero => cases h
    | succ depth =>
      obtain ⟨source, sourceFile, hsource', -, hread', hblock⟩ := splice_succ_gives.mp h
      obtain rfl := Except.ok.inj (hsource.symm.trans hsource')
      obtain rfl := Except.ok.inj (hread.symm.trans hread')
      refine ⟨depth, expandWithin_eq_ok.mpr ?_⟩
      rw [← hparent]
      refine hblock.expandBlock_of_subset fun other _ hid => ?_
      rw [ImportStack.isActive_push, hid, Bool.or_true]
  · rintro ⟨depth, h⟩
    rw [expandWithin_eq_ok, ← hparent] at h
    -- one level deeper, and with the imported source on the stack
    refine ⟨depth + 1, ?_⟩
    rw [expandWithin_eq_ok, expandBlock_directive_gives]
    exact splice_succ_gives.mpr ⟨z, file, hsource, hactive, hread, h.expandBlock_push hread honly⟩

/-- Statements with an import among them stand for what the statements with the imported ones in its
place stand for. -/
theorem expands_iff_inlined {d : Directive} {z : Source} {file : SourceFile}
    (hsource : importSource resolve id.parent? d = .ok z) (hread : readSource z = .ok file)
    (hparent : z.id.parent? = id.parent?) (hother : z.id.same id = false)
    (honly : resolve.Determines z) {before after : List Statement} {out : List Step} :
    Expands resolve id (before ++ [.directive d] ++ after) out ↔
      Expands resolve id (before ++ file.statements ++ after) out := by
  simp only [expands_append,
    expands_directive_iff_inlined hsource hread hparent hother honly]

end Expansion

/-- The text is one import of the path. -/
def IsImportLine (line path : String) : Prop :=
  ∃ name d, SourceFile.read name line = .ok ⟨[], [.directive d]⟩ ∧ d.Imports path

/-- The file that is one import of the path. -/
def importOf (path : String) : SourceFile :=
  ⟨[], [.directive ⟨"import", [.literal default (.string path)], true, default⟩]⟩

/-- Every path has a line that imports it. -/
theorem isImportLine_print (path : String) : IsImportLine (importOf path).print path := by
  have hname : IsBareName "import" := ⟨⟨_, _, rfl, rfl, rfl⟩, by decide⟩
  have hwell : (importOf path).IsWellFormed := by
    simp [SourceFile.IsWellFormed, importOf, Directive.IsWellFormed, ArgsWellFormed,
      Expr.IsWellFormed, Value.IsSpellable, BlockWellFormed, Statement.IsWellFormed,
      SourceFileOf.IsBehindHeader, hname]
  obtain ⟨⟨header, statements⟩, hread, hview⟩ := SourceFile.read_print.1 _ "" hwell
  simp only [SourceFileOf.unplaced, importOf, List.map_nil, List.map_eq_nil_iff, List.map_cons,
    SourceFileOf.mk.injEq, List.map_eq_singleton_iff] at hview
  obtain ⟨rfl, s, rfl, hs⟩ := hview
  cases s with
  | directive d =>
    refine ⟨"", d, hread, Expansion.importPath_eq_ok.mp ?_⟩
    rw [← Expansion.importPath_unplaced, StatementOf.directive.inj hs,
      Expansion.importPath_unplaced, Expansion.importPath_eq_ok]
    exact ⟨rfl, rfl, _, rfl⟩
  | rule branches otherwise => cases otherwise <;> cases hs
  | _ => cases hs

/-- The source whose text has a text between two others, on lines of its own. -/
def Source.between (id : SourcePath) (before middle after : String) : Source :=
  ⟨id, before ++ "\n" ++ middle ++ "\n" ++ after⟩

/-- The line imports the source `z` into a program with the given path, between two texts: all texts
can be read alone, the import and what follows it bring no header, and `z` stands in the directory
of the program. -/
structure IsInclusion (resolve : Resolver) (main : SourcePath) (before line after : String)
    (z : Source) : Prop where
  before : ∃ f, SourceFile.read main.text before = .ok f
  after : ∃ f, SourceFile.read main.text after = .ok f ∧ f.header = []
  imported : ∃ f, Expansion.readSource z = .ok f ∧ f.header = []
  line : ∃ path, IsImportLine line path ∧ resolve path main.parent? = .ok z
  parent : z.id.parent? = main.parent?

namespace Program

/-- A text between two others is read as part of the whole text, up to positions. -/
theorem exists_readSource_between {before middle after nameBefore nameMiddle nameAfter : String}
    {f m g : SourceFile} (hf : SourceFile.read nameBefore before = .ok f)
    (hm : SourceFile.read nameMiddle middle = .ok m) (hmHeader : m.header = [])
    (hg : SourceFile.read nameAfter after = .ok g) (hgHeader : g.header = []) (main : SourcePath) :
    ∃ h, Expansion.readSource (.between main before middle after) = .ok h ∧
      h.header.map DirectiveOf.unplaced = f.header.map DirectiveOf.unplaced ∧
      unplacedBlock h.statements = unplacedBlock (f.statements ++ m.statements ++ g.statements) := by
  obtain ⟨first, hfirst, hfirstView⟩ := SourceFile.exists_read_append hf hm hmHeader main.text
  obtain ⟨h, hread, hview⟩ := SourceFile.exists_read_append hfirst hg hgHeader main.text
  rw [hfirstView] at hview
  refine ⟨h, mapError_eq_ok.mpr hread, congrArg SourceFileOf.header hview, ?_⟩
  rw [unplacedBlock_eq, unplacedBlock_eq, List.map_append, List.map_append]
  exact congrArg SourceFileOf.statements hview

/-- A program that imports a source is loaded as the program with the text of this source in the
place of the import, if the source is not the program itself and is all that the resolver has under
its path: one is loaded if the other is, and then they have the same configuration and, up to
positions, the same steps, and do the same with every record. Where the resolver is that of a
library, a program is loaded if loading with this library gives it. -/
theorem loads_import_iff_inlined (resolve : Resolver) (options : LoadOptions) (main : SourcePath)
    (before line after : String) (z : Source) (h : IsInclusion resolve main before line after z)
    (hother : z.id.same main = false) (honly : resolve.Determines z) :
    ((∃ p, Loads resolve options (.between main before line after) p) ↔
      ∃ q, Loads resolve options (.between main before z.text after) q) ∧
    (∀ p q, Loads resolve options (.between main before line after) p →
      Loads resolve options (.between main before z.text after) q →
      p.config = q.config ∧ unplacedSteps p.steps = unplacedSteps q.steps ∧
      ∀ record, (p.execute record).record = (q.execute record).record ∧
        (p.execute record).writes = (q.execute record).writes ∧
        (p.execute record).log = (q.execute record).log ∧
        (p.execute record).error?.map EvalError.fault =
          (q.execute record).error?.map EvalError.fault) ∧
    ∀ library : Library, library.resolve = resolve → ∀ root p,
      Loads resolve options root p ↔ ofSource library options root = .ok p := by
  obtain ⟨⟨f, hf⟩, ⟨g, hg, hgHeader⟩, ⟨imported, himported, himportedHeader⟩,
    ⟨path, ⟨name, d, hd, himports⟩, hresolve⟩, hparent⟩ := h
  obtain ⟨spliced, hspliced, hsplicedHeader, hsplicedBlock⟩ :=
    exists_readSource_between hf hd rfl hg hgHeader main
  obtain ⟨inlined, hinlined, hinlinedHeader, hinlinedBlock⟩ :=
    exists_readSource_between hf (mapError_eq_ok.mp himported) himportedHeader hg hgHeader main
  have hsource := Expansion.importSource_eq_ok.mpr ⟨path, himports, hresolve⟩
  have hexpands : ∀ out,
      Expansion.Expands resolve main (f.statements ++ [.directive d] ++ g.statements) out ↔
        Expansion.Expands resolve main (f.statements ++ imported.statements ++ g.statements) out :=
    fun out => Expansion.expands_iff_inlined hsource himported hparent hother honly
  -- Neither text has these statements literally: the parts were read at other positions.
  have hheader := hsplicedHeader.trans hinlinedHeader.symm
  have hforth : ∀ {p}, Loads resolve options (.between main before line after) p →
      ∃ q, Loads resolve options (.between main before z.text after) q ∧
        p.config = q.config ∧ unplacedSteps p.steps = unplacedSteps q.steps :=
    fun hp => hp.exists_of_unplaced_eq hspliced hinlined hheader hsplicedBlock hinlinedBlock
      fun out => (hexpands out).mp
  have hback : ∀ {q}, Loads resolve options (.between main before z.text after) q →
      ∃ p, Loads resolve options (.between main before line after) p ∧
        q.config = p.config ∧ unplacedSteps q.steps = unplacedSteps p.steps :=
    fun hq => hq.exists_of_unplaced_eq hinlined hspliced hheader.symm hinlinedBlock hsplicedBlock
      fun out => (hexpands out).mpr
  refine ⟨⟨?_, ?_⟩, fun p q hp hq => ?_, ?_⟩
  · rintro ⟨p, hp⟩
    obtain ⟨q, hq, -⟩ := hforth hp
    exact ⟨q, hq⟩
  · rintro ⟨q, hq⟩
    obtain ⟨p, hp, -⟩ := hback hq
    exact ⟨p, hp⟩
  · obtain ⟨q', hq', hconfig, hsteps⟩ := hforth hp
    obtain rfl := hq.unique hq'
    exact ⟨hconfig, hsteps, fun record =>
      Execution.unplaced_eq_iff.mp (execute_congr hconfig hsteps record)⟩
  · rintro library rfl root p
    exact loads_iff_ofSource

end Program

end RecordScript

namespace RecordScript.Program.Inclusion

/-- The path of a program. -/
def main : SourcePath := ⟨"main"⟩

/-- A program that imports another. -/
def part : Source := ⟨⟨"z"⟩, "@@import('v') # v"⟩

/-- A resolver that has this program under one spelling of its path, and under every other path a
program of its own. -/
def echo : Resolver := fun path _ =>
  if path = "z" then .ok part
  else if (SourcePath.mk path).same part.id then .error .noSuchFile
  else .ok ⟨⟨path⟩, "record_str()"⟩

/-- A source that another program with the same path imports. -/
def own : Source := ⟨⟨"z"⟩, "record_str()"⟩

/-- The library of this source. -/
def ownShelf : Library := (SourceTable.ofList [("z", "record_str()")]).toLibrary

/-- A source that imports another. -/
def twoFaced : Source := ⟨⟨"z"⟩, "@@import('v')"⟩

/-- A library that answers with the source and, for any other path, with another source under the
same path. -/
def twoFacedShelf : Library where
  resolve path _ := .ok (if path = "z" then twoFaced else ⟨⟨"z"⟩, ""⟩)
  ids := [⟨"z"⟩]
  resolve_mem := by
    rintro path dir source ⟨⟩
    split <;> exact List.mem_singleton_self _

theorem read_empty [RegexEngine] (name : String) : SourceFile.read name "" = .ok ⟨[], []⟩ := by
  rw [SourceFile.read_eq]
  cbv

theorem isImportLine_z : IsImportLine "@@import('z')" "z" := by
  refine ⟨"main", ⟨"import", [.literal ⟨"main", 1, 10⟩ (.string "z")], true, ⟨"main", 1, 1⟩⟩, ?_,
    rfl, rfl, _, rfl⟩
  decide +kernel

theorem isInclusion_own : IsInclusion ownShelf own.id "" "@@import('z')" "" own := by
  have hread : Expansion.readSource own = .ok ⟨[], [.call ⟨"z", 1, 1⟩ "record_str" []]⟩ := by
    decide +kernel
  exact ⟨⟨_, read_empty _⟩, ⟨_, read_empty _, rfl⟩, ⟨_, hread, rfl⟩, ⟨_, isImportLine_z, by decide⟩,
    rfl⟩

theorem isInclusion_twoFaced : IsInclusion twoFacedShelf main "" "@@import('z')" "" twoFaced := by
  have hread : Expansion.readSource twoFaced = .ok ⟨[], [.directive
      ⟨"import", [.literal ⟨"z", 1, 10⟩ (.string "v")], true, ⟨"z", 1, 1⟩⟩]⟩ := by
    decide +kernel
  exact ⟨⟨_, read_empty _⟩, ⟨_, read_empty _, rfl⟩, ⟨_, hread, rfl⟩, ⟨_, isImportLine_z, rfl⟩,
    by decide⟩

theorem ofSource_own : ofSource ownShelf {} (.between own.id "" "@@import('z')" "") =
    .error (.importCycle [⟨"z"⟩, ⟨"z"⟩]) := by
  decide +kernel

theorem ofSource_own_inlined : ofSource ownShelf {} (.between own.id "" own.text "") =
    .ok ⟨{}, [.call ⟨"z", 2, 1⟩ "record_str" []]⟩ := by
  have hread : Expansion.readSource (.between own.id "" own.text "") =
      .ok ⟨[], [.call ⟨"z", 2, 1⟩ "record_str" []]⟩ := by
    decide +kernel
  exact ofSource_eq_ok.mpr ⟨_, _, hread, by rfl, by rfl, by cbv⟩

theorem ofSource_twoFaced : ofSource twoFacedShelf {} (.between main "" "@@import('z')" "") =
    .error (.importCycle [main, ⟨"z"⟩, ⟨"z"⟩]) := by
  decide +kernel

theorem ofSource_twoFaced_inlined :
    ofSource twoFacedShelf {} (.between main "" twoFaced.text "") = .ok ⟨{}, []⟩ := by
  have hread : Expansion.readSource (.between main "" twoFaced.text "") = .ok ⟨[], [.directive
      ⟨"import", [.literal ⟨"main", 2, 10⟩ (.string "v")], true, ⟨"main", 2, 1⟩⟩]⟩ := by
    decide +kernel
  have hsteps : Expansion.expand twoFacedShelf main [.directive
      ⟨"import", [.literal ⟨"main", 2, 10⟩ (.string "v")], true, ⟨"main", 2, 1⟩⟩] = .ok [] := by
    decide +kernel
  exact ofSource_eq_ok.mpr ⟨_, _, hread, by rfl, hsteps, by cbv⟩

/-- An inclusion need not be loaded as the text without the import is: the imported source can have
the path of the program itself, and a library can answer with another source under the path of the
imported one. In both cases the import is a cycle, and the text is not. -/
theorem exists_importCycle_of_isInclusion :
    (IsInclusion ownShelf own.id "" "@@import('z')" "" own ∧
      ofSource ownShelf {} (.between own.id "" "@@import('z')" "") =
        .error (.importCycle [⟨"z"⟩, ⟨"z"⟩]) ∧
      ∃ p, ofSource ownShelf {} (.between own.id "" own.text "") = .ok p) ∧
    IsInclusion twoFacedShelf main "" "@@import('z')" "" twoFaced ∧
      ofSource twoFacedShelf {} (.between main "" "@@import('z')" "") =
        .error (.importCycle [main, ⟨"z"⟩, ⟨"z"⟩]) ∧
      ∃ p, ofSource twoFacedShelf {} (.between main "" twoFaced.text "") = .ok p :=
  ⟨⟨isInclusion_own, ofSource_own, _, ofSource_own_inlined⟩, isInclusion_twoFaced, ofSource_twoFaced,
    _, ofSource_twoFaced_inlined⟩

theorem determines_part : echo.Determines part := by
  intro path dir source hresolve hsame
  rw [echo] at hresolve
  split_ifs at hresolve with hz hother
  · exact (Except.ok.inj hresolve).symm
  · obtain rfl := Except.ok.inj hresolve
    exact absurd hsame hother

theorem isInclusion_part : IsInclusion echo main "@reverse" "@@import('z')" "" part := by
  have hbefore : SourceFile.read "main" "@reverse" =
      .ok ⟨[⟨"reverse", [], false, ⟨"main", 1, 1⟩⟩], []⟩ := by decide +kernel
  have hpart : Expansion.readSource part = .ok ⟨[], [.directive
      ⟨"import", [.literal ⟨"z", 1, 10⟩ (.string "v")], true, ⟨"z", 1, 1⟩⟩]⟩ := by
    decide +kernel
  exact ⟨⟨_, hbefore⟩, ⟨_, read_empty _, rfl⟩, ⟨_, hpart, rfl⟩, ⟨_, isImportLine_z, by rfl⟩,
    by decide⟩

theorem loads_part_inlined : Loads echo {} (.between main "@reverse" part.text "")
    ⟨{ reverse := true }, [.call ⟨"v", 1, 1⟩ "record_str" []]⟩ := by
  have hread : Expansion.readSource (.between main "@reverse" part.text "") =
      .ok ⟨[⟨"reverse", [], false, ⟨"main", 1, 1⟩⟩], [.directive
        ⟨"import", [.literal ⟨"main", 2, 10⟩ (.string "v")], true, ⟨"main", 2, 1⟩⟩]⟩ := by
    decide +kernel
  have hsteps : Expansion.expandWithin echo 1 main [.directive
      ⟨"import", [.literal ⟨"main", 2, 10⟩ (.string "v")], true, ⟨"main", 2, 1⟩⟩] =
      .ok [.call ⟨"v", 1, 1⟩ "record_str" []] := by
    decide +kernel
  exact loads_iff.mpr ⟨_, _, hread, by rfl, ⟨1, hsteps⟩, by cbv⟩

/-- The import of a program that imports another and ends in a comment, from a resolver that has a
source for every path but the other spellings of one. -/
theorem loads_import_iff_inlined_part :
    IsInclusion echo main "@reverse" "@@import('z')" "" part ∧ part.id.same main = false ∧
      echo.Determines part ∧
      (∃ q, Loads echo {} (.between main "@reverse" part.text "") q) ∧
      ∃ p, Loads echo {} (.between main "@reverse" "@@import('z')" "") p := by
  have hother : part.id.same main = false := by decide
  have hloads := (loads_import_iff_inlined echo {} main _ _ _ part isInclusion_part hother
    determines_part).1.mpr ⟨_, loads_part_inlined⟩
  exact ⟨isInclusion_part, hother, determines_part, ⟨_, loads_part_inlined⟩, hloads⟩

end RecordScript.Program.Inclusion
