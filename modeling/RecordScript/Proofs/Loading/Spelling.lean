import RecordScript.Pattern.PlaceEngine
import RecordScript.Proofs.Grammar.Naming
import RecordScript.Proofs.Loading.Cycle
import RecordScript.Proofs.Loading.Inclusion
import RecordScript.Proofs.Source.Lookup

/-!
# Spellings of the base directory

The text of a program is given a path by putting its name behind a directory, and this path is not
normalized. Its imports are read from the same places however the directory is spelled, and the name
of the source decides nothing. But the path stands on the stack of imports as it is: only if it is
spelled with the parts of its normalized path, an import of this path is seen to be the program
itself.
-/

namespace RecordScript

open Result

namespace SourcePath

/-- The path has the parts of its normalized path. -/
def IsCanonical (p : SourcePath) : Prop := p.same p.normalize = true

instance (p : SourcePath) : Decidable p.IsCanonical := inferInstanceAs (Decidable (_ = true))

theorem normalize_eq_of_same {p q : SourcePath} (h : p.same q = true) :
    p.normalize = q.normalize := by
  rw [normalize, normalize, same_iff.mp h]

/-- A normalized path is that of a source exactly if this is canonical and normalizes to it. -/
theorem same_iff_isCanonical {p q : SourcePath} (hp : p.normalize = p) :
    p.same q = true ↔ q.IsCanonical ∧ p = q.normalize := by
  constructor
  · intro h
    have hnormal : p = q.normalize := hp.symm.trans (normalize_eq_of_same h)
    refine ⟨?_, hnormal⟩
    rw [IsCanonical, ← hnormal, same_comm]
    exact h
  · rintro ⟨hq, rfl⟩
    rw [same_comm]
    exact hq

/-- A file has a canonical path exactly if its directory has. -/
theorem isCanonical_join_iff {name : String} (h : IsFileName name) (dir : SourcePath) :
    (dir.join ⟨name⟩).IsCanonical ↔ dir.IsCanonical := by
  rw [IsCanonical, IsCanonical, same_iff, same_iff, normalize_join_of_isFileName h,
    parts_join_of_isFileName h, parts_join_of_isFileName h]
  exact List.append_left_inj _

end SourcePath

variable [RegexEngine]

namespace SourceTable

variable {t : SourceTable} {dir dir' : SourcePath}

theorem splice_congr (h : dir.normalize = dir'.normalize) (depth : Nat) :
    Expansion.splice t.toLibrary depth (some dir) =
      Expansion.splice t.toLibrary depth (some dir') := by
  cases depth with
  | zero => rfl
  | succ depth =>
    funext d stack
    have hsource : Expansion.importSource t.toLibrary (some dir) d =
        Expansion.importSource t.toLibrary (some dir') d := by
      have hresolve : ∀ path, t.toLibrary.resolve path (some dir) =
          t.toLibrary.resolve path (some dir') := resolve_congr h
      simp only [Expansion.importSource, hresolve]
    rw [Expansion.splice_succ_apply, Expansion.splice_succ_apply, hsource]

/-- Statements of roots in the same directory expand alike, if all that is rejected as the second root
is rejected as the first one. -/
theorem expand_of_expand {root root' : SourcePath} (hdir : root.parent? = some dir)
    (hdir' : root'.parent? = some dir') (h : dir.normalize = dir'.normalize)
    (hroot : root'.IsCanonical → root.IsCanonical ∧ root'.normalize = root.normalize)
    {ss : List Statement} {out : List Step} (hout : Expansion.expand t.toLibrary root ss = .ok out) :
    Expansion.expand t.toLibrary root' ss = .ok out := by
  rw [Expansion.expand_eq_ok, hdir, splice_congr h] at hout
  rw [Expansion.expand_eq_ok, hdir']
  refine hout.expandBlock_of_subset ?_
  -- only the root is active, and the library has no path but normalized ones
  rintro id ⟨path, base, source, hresolve, rfl⟩ hactive
  have hnormal := normalize_id_of_resolve hresolve
  simp only [ImportStack.isActive, ImportStack.start, List.any_cons, List.any_nil,
    Bool.or_false] at hactive ⊢
  rw [SourcePath.same_iff_isCanonical hnormal] at hactive ⊢
  obtain ⟨hcanonical, hid⟩ := hroot hactive.1
  exact ⟨hcanonical, hactive.2.trans hid⟩

end SourceTable

namespace Program

variable {t : SourceTable} {options : LoadOptions} {dir dir' : SourcePath} {name text : String}

/-- The programs have the same configuration and, but for the names of sources in positions, the same
steps. -/
structure SameButNames (p q : Program) : Prop where
  config : p.config = q.config
  steps : relocatedSteps (Position.inSource "") p.steps =
    relocatedSteps (Position.inSource "") q.steps

/-- With a name in either directory the text is loaded or not, and gives the same program up to the
names of sources. -/
structure LoadsAlike (library : Library) (options : LoadOptions) (text name : String)
    (dir dir' : SourcePath) : Prop where
  succeeds : (∃ p, ofText library options text ⟨name⟩ (some dir) = .ok p) ↔
    ∃ q, ofText library options text ⟨name⟩ (some dir') = .ok q
  same : ∀ p q, ofText library options text ⟨name⟩ (some dir) = .ok p →
    ofText library options text ⟨name⟩ (some dir') = .ok q → SameButNames p q

theorem ofText_eq (library : Library) (options : LoadOptions) (text : String)
    (name dir : SourcePath) :
    ofText library options text name (some dir) =
      ofSource library options ⟨dir.join name, text⟩ := rfl

/-- What is loaded from one spelling of the directory is loaded from another, if the second path is
canonical only where the first one is. -/
theorem exists_ofText_of_ofText (hname : SourcePath.IsFileName name)
    (h : dir.normalize = dir'.normalize)
    (hroot : (dir'.join ⟨name⟩).IsCanonical → (dir.join ⟨name⟩).IsCanonical) {p : Program}
    (hp : ofText t.toLibrary options text ⟨name⟩ (some dir) = .ok p) :
    ∃ q, ofText t.toLibrary options text ⟨name⟩ (some dir') = .ok q ∧ SameButNames p q := by
  rw [ofText_eq] at hp ⊢
  obtain ⟨parent, hparent, hnormal⟩ := SourcePath.exists_parent?_join hname dir
  obtain ⟨parent', hparent', hnormal'⟩ := SourcePath.exists_parent?_join hname dir'
  have hid := SourcePath.normalize_join_congr h ⟨name⟩
  obtain ⟨file, _, hread, -⟩ := ofSource_eq_ok.mp hp
  have hfile := mapError_eq_ok.mp hread
  obtain ⟨file', hfile'⟩ : ∃ file', SourceFile.read (dir'.join ⟨name⟩).text text = .ok file' :=
    ⟨_, SourceFile.read_inSource hfile _⟩
  -- with the names taken out of the positions both trees are the same
  have hview := SourceFile.relocated_eq_of_read hfile hfile' ""
  have hstatements : relocatedBlock (Position.inSource "") file.statements =
      relocatedBlock (Position.inSource "") file'.statements := by
    rw [relocatedBlock_eq, relocatedBlock_eq]
    exact congrArg SourceFileOf.statements hview
  have hread' : Expansion.readSource ⟨dir'.join ⟨name⟩, text⟩ = .ok file' :=
    mapError_eq_ok.mpr hfile'
  have hexpand : ∀ out, Expansion.expand t.toLibrary (dir.join ⟨name⟩) file.statements = .ok out →
      ∃ out', Expansion.expand t.toLibrary (dir'.join ⟨name⟩) file'.statements = .ok out' ∧
        relocatedSteps (Position.inSource "") out = relocatedSteps (Position.inSource "") out' := by
    intro out hout
    have hout' := SourceTable.expand_of_expand hparent hparent'
      (hnormal.trans (h.trans hnormal'.symm)) (fun hcanonical => ⟨hroot hcanonical, hid.symm⟩) hout
    exact Expansion.exists_expandBlock_gives_of_relocated_eq hstatements
      (Expansion.expand_eq_ok.mp hout')
  obtain ⟨q, hq, hconfig, hsteps⟩ := exists_ofSource_of_relocated_eq hread hread'
    (congrArg SourceFileOf.header hview) hexpand hp
  exact ⟨q, hq, hconfig, hsteps⟩

/-- Directories that are normalized to one path load alike, if both paths of the text are canonical
or none is. -/
theorem loadsAlike_of_isCanonical_iff (hname : SourcePath.IsFileName name)
    (h : dir.normalize = dir'.normalize)
    (hroot : (dir.join ⟨name⟩).IsCanonical ↔ (dir'.join ⟨name⟩).IsCanonical) :
    LoadsAlike t.toLibrary options text name dir dir' where
  succeeds := by
    constructor
    · rintro ⟨p, hp⟩
      obtain ⟨q, hq, -⟩ := exists_ofText_of_ofText hname h hroot.mpr hp
      exact ⟨q, hq⟩
    · rintro ⟨q, hq⟩
      obtain ⟨p, hp, -⟩ := exists_ofText_of_ofText hname h.symm hroot.mp hq
      exact ⟨p, hp⟩
  same := by
    intro p q hp hq
    obtain ⟨q', hq', hsame⟩ := exists_ofText_of_ofText hname h hroot.mpr hp
    obtain rfl := Except.ok.inj (hq.symm.trans hq')
    exact hsame

/-! ### Imports of the root -/

/-- No program is loaded that imports a source under the path of a canonical root. -/
theorem ofSource_ne_ok_of_chain {root source : Source} {rest : List Source}
    (hchain : ImportChain t.toLibrary root (source :: rest)) (hroot : root.id.IsCanonical)
    (hrest : rest ≠ []) (hid : source.id = root.id.normalize) (p : Program) :
    ofSource t.toLibrary options root ≠ .ok p := by
  intro hp
  rcases hchain.eq_root_or_resolve with ⟨-, hnil⟩ | ⟨hmem, -⟩
  · exact hrest hnil
  · have hother := (isValid_of_ofSource hp).acyclic _ _ hchain root hmem
    rw [hid, SourcePath.same_comm, hroot] at hother
    cases hother

/-- Where a canonical root is being expanded, the import of its path is reported as a cycle. -/
theorem splice_eq_importCycle {root : SourcePath} {source : Source} {stack : ImportStack}
    {d : Directive} {base : Option SourcePath} (hroot : root.IsCanonical)
    (hactive : root ∈ stack.active)
    (hsource : Expansion.importSource t.toLibrary base d = .ok source)
    (hid : source.id = root.normalize) (depth : Nat) :
    (Expansion.splice t.toLibrary (depth + 1) base d stack).1 =
      .error (.importCycle (stack.chain ++ [root.normalize])) := by
  have hagain : stack.isActive root.normalize = true := by
    refine List.any_eq_true.mpr ⟨root, hactive, ?_⟩
    rw [SourcePath.same_comm]
    exact hroot
  rw [Expansion.splice_succ_apply, hsource]
  simp only [hid, hagain, if_true]

/-- The table that has an empty text under the normalized path. -/
def emptyTextAt (id : SourcePath) : SourceTable := SourceTable.empty.insert id ""

omit [RegexEngine] in
theorem resolve_emptyTextAt {base : SourcePath} (h : base.normalize = dir.normalize) :
    (emptyTextAt (dir.join ⟨name⟩)).toLibrary.resolve name (some base) =
      .ok ⟨(dir.join ⟨name⟩).normalize, ""⟩ := by
  have hid : SourceTable.idOf name (some base) = (dir.join ⟨name⟩).normalize :=
    SourcePath.normalize_join_congr h ⟨name⟩
  change SourceTable.resolve _ name (some base) = _
  simp [SourceTable.resolve, hid, emptyTextAt, SourceTable.insert, SourceTable.empty]

/-- A text that imports a file of its own name from its own directory is a cycle exactly if its path
is canonical, even where the file is empty. -/
theorem exists_ofText_iff_of_isImportLine (hname : SourcePath.IsFileName name)
    (hline : IsImportLine text name) (options : LoadOptions) (dir : SourcePath) :
    (∃ p, ofText (emptyTextAt (dir.join ⟨name⟩)).toLibrary options text ⟨name⟩ (some dir) =
      .ok p) ↔ ¬ (dir.join ⟨name⟩).IsCanonical := by
  obtain ⟨parent, hparent, hnormal⟩ := SourcePath.exists_parent?_join hname dir
  obtain ⟨other, d, hread, himports⟩ := hline
  have hfile : Expansion.readSource ⟨dir.join ⟨name⟩, text⟩ =
      .ok ⟨[], [.directive (d.relocated (Position.inSource (dir.join ⟨name⟩).text))]⟩ :=
    mapError_eq_ok.mpr (SourceFile.read_inSource hread _)
  have himports' : (d.relocated (Position.inSource (dir.join ⟨name⟩).text)).Imports name := by
    rw [← Expansion.importPath_eq_ok] at himports ⊢
    rw [Expansion.importPath_relocated, himports]
  have hresolve : (emptyTextAt (dir.join ⟨name⟩)).toLibrary.resolve name (dir.join ⟨name⟩).parent? =
      .ok ⟨(dir.join ⟨name⟩).normalize, ""⟩ := by
    rw [hparent]
    exact resolve_emptyTextAt hnormal
  have hempty : Expansion.readSource ⟨(dir.join ⟨name⟩).normalize, ""⟩ = .ok ⟨[], []⟩ :=
    mapError_eq_ok.mpr (Inclusion.read_empty _)
  constructor
  · rintro ⟨p, hp⟩ hcanonical
    have hchain := ImportChain.cons .root hfile (List.mem_singleton_self _) himports' hresolve
    exact ofSource_ne_ok_of_chain hchain hcanonical (List.cons_ne_nil _ _) rfl p hp
  · intro hnot
    have hactive : (ImportStack.start (dir.join ⟨name⟩)).isActive (dir.join ⟨name⟩).normalize =
        false := by
      rw [← Bool.not_eq_true]
      intro hsame
      simp only [ImportStack.isActive, ImportStack.start, List.any_cons, List.any_nil,
        Bool.or_false] at hsame
      exact hnot ((SourcePath.same_iff_isCanonical (SourcePath.normalize_normalize _)).mp hsame).1
    refine ⟨⟨Config.ofOptions options, []⟩, ofSource_eq_ok.mpr ⟨_, [], hfile, rfl, ?_, rfl⟩⟩
    rw [Expansion.expand_eq_ok, Expansion.expandBlock_directive_gives]
    exact Expansion.splice_succ_gives.mpr ⟨_, _,
      Expansion.importSource_eq_ok.mpr ⟨name, himports', hresolve⟩, hactive, hempty,
      Expansion.gives_pure.mpr rfl⟩

/-- Texts that are loaded with a name in two spellings of one directory, over a table. Every text is
loaded alike in both exactly if both spellings are canonical or none is. What is loaded in a canonical
directory is loaded alike in every other spelling, and in a canonical directory an import of the text's
own normalized path is a cycle wherever it stands, so that no program with such an import is loaded.
In a directory that is not canonical it is no cycle: a text can import its own path there and is
loaded. -/
theorem loadsAlike_iff_isCanonical (name : String) (hname : SourcePath.IsFileName name)
    (dir dir' : SourcePath) (h : dir.normalize = dir'.normalize) :
    ((∀ (t : SourceTable) (options : LoadOptions) (text : String),
        LoadsAlike t.toLibrary options text name dir dir') ↔
      (dir.IsCanonical ↔ dir'.IsCanonical)) ∧
    (dir.IsCanonical → ∀ (t : SourceTable) (options : LoadOptions) (text : String),
      (∀ p, ofText t.toLibrary options text ⟨name⟩ (some dir) = .ok p →
        ∃ q, ofText t.toLibrary options text ⟨name⟩ (some dir') = .ok q ∧ SameButNames p q) ∧
      (∀ source rest, ImportChain t.toLibrary ⟨dir.join ⟨name⟩, text⟩ (source :: rest) → rest ≠ [] →
        source.id = (dir.join ⟨name⟩).normalize →
        ∀ p, ofText t.toLibrary options text ⟨name⟩ (some dir) ≠ .ok p) ∧
      ∀ (stack : ImportStack) (base : Option SourcePath) (d : Directive) (source : Source)
          (depth : Nat), dir.join ⟨name⟩ ∈ stack.active →
        Expansion.importSource t.toLibrary base d = .ok source →
        source.id = (dir.join ⟨name⟩).normalize →
        (Expansion.splice t.toLibrary (depth + 1) base d stack).1 =
          .error (.importCycle (stack.chain ++ [(dir.join ⟨name⟩).normalize]))) ∧
    (¬ dir.IsCanonical → ∀ (options : LoadOptions) (line : String), IsImportLine line name →
      ∃ p, ofText (emptyTextAt (dir.join ⟨name⟩)).toLibrary options line ⟨name⟩ (some dir) =
        .ok p) := by
  have hiff := SourcePath.isCanonical_join_iff hname
  refine ⟨⟨fun halike => ?_, fun hroot t options text => ?_⟩,
    fun hroot t options text => ⟨?_, ?_, ?_⟩, fun hnot options line hline => ?_⟩
  · -- the import of an empty text under the own path tells the two spellings apart
    have htable : emptyTextAt (dir'.join ⟨name⟩) = emptyTextAt (dir.join ⟨name⟩) := by
      rw [emptyTextAt, emptyTextAt, SourceTable.insert, SourceTable.insert,
        SourcePath.normalize_join_congr h]
    obtain ⟨line, hline⟩ : ∃ line, IsImportLine line name := ⟨_, isImportLine_print name⟩
    have hdir := exists_ofText_iff_of_isImportLine hname hline {} dir
    have hdir' := exists_ofText_iff_of_isImportLine hname hline {} dir'
    rw [htable] at hdir'
    have hsucceeds := (halike (emptyTextAt (dir.join ⟨name⟩)) {} line).succeeds
    rw [hdir, hdir', hiff, hiff] at hsucceeds
    exact not_iff_not.mp hsucceeds
  · exact loadsAlike_of_isCanonical_iff hname h ((hiff dir).trans (hroot.trans (hiff dir').symm))
  · exact fun p hp => exists_ofText_of_ofText hname h (fun _ => (hiff dir).mpr hroot) hp
  · intro source rest hchain hrest hid p
    rw [ofText_eq]
    exact ofSource_ne_ok_of_chain hchain ((hiff dir).mpr hroot) hrest hid p
  · exact fun stack base d source depth hactive hsource hid =>
      splice_eq_importCycle ((hiff dir).mpr hroot) hactive hsource hid depth
  · exact (exists_ofText_iff_of_isImportLine hname hline options dir).mpr (mt (hiff dir).mp hnot)

end Program

end RecordScript

namespace RecordScript.Program.Spelling

/-- A table with two files in one directory, one of which imports the other by way of the parent
directory. -/
def shelf : SourceTable :=
  .ofList [("rules/a", "@@import('../rules/b')"), ("rules/b", "record_str()")]

theorem ofText_shelf : ofText shelf.toLibrary {} "@@import('a')" ⟨"main"⟩ (some ⟨"rules/"⟩) =
    .ok ⟨{}, [.call ⟨"rules/b", 1, 1⟩ "record_str" []]⟩ := by
  have hread : Expansion.readSource ⟨⟨"rules/main"⟩, "@@import('a')"⟩ = .ok ⟨[], [.directive
      ⟨"import", [.literal ⟨"rules/main", 1, 10⟩ (.string "a")], true, ⟨"rules/main", 1, 1⟩⟩]⟩ := by
    decide +kernel
  have hsteps : Expansion.expand shelf.toLibrary ⟨"rules/main"⟩ [.directive
      ⟨"import", [.literal ⟨"rules/main", 1, 10⟩ (.string "a")], true, ⟨"rules/main", 1, 1⟩⟩] =
      .ok [.call ⟨"rules/b", 1, 1⟩ "record_str" []] := by
    decide +kernel
  have hid : (SourcePath.mk "rules/").join ⟨"main"⟩ = ⟨"rules/main"⟩ := by decide +kernel
  rw [ofText_eq, hid]
  exact ofSource_eq_ok.mpr ⟨_, _, hread, by rfl, hsteps, by cbv⟩

/-- A program is loaded alike in the directories `rules/`, `rules//` and `./rules`. The first two are
canonical, so that they load everything alike; the last one is not, and does not. -/
theorem loadsAlike_iff_isCanonical_rules :
    (∃ q, ofText shelf.toLibrary {} "@@import('a')" ⟨"main"⟩ (some ⟨"./rules"⟩) = .ok q ∧
      SameButNames ⟨{}, [.call ⟨"rules/b", 1, 1⟩ "record_str" []]⟩ q) ∧
    (∀ t options text, LoadsAlike (SourceTable.toLibrary t) options text "main" ⟨"rules/"⟩
      ⟨"rules//"⟩) ∧
    ¬ (∀ t options text, LoadsAlike (SourceTable.toLibrary t) options text "main" ⟨"rules/"⟩
      ⟨"./rules"⟩) := by
  have hname : SourcePath.IsFileName "main" := ⟨⟨by decide, by decide, by decide⟩, by decide⟩
  obtain ⟨hiff, hcanonical, -⟩ := loadsAlike_iff_isCanonical "main" hname ⟨"rules/"⟩ ⟨"./rules"⟩
    (by decide +kernel)
  obtain ⟨hslash, -⟩ := loadsAlike_iff_isCanonical "main" hname ⟨"rules/"⟩ ⟨"rules//"⟩
    (by decide +kernel)
  have hrules : (SourcePath.mk "rules/").IsCanonical := by decide +kernel
  have hdot : ¬ (SourcePath.mk "./rules").IsCanonical := by decide +kernel
  refine ⟨(hcanonical hrules shelf {} "@@import('a')").1 _ ofText_shelf,
    hslash.mpr (by decide +kernel), fun halike => hdot ((hiff.mp halike).mp hrules)⟩

/-- A table with one file, which imports nothing. -/
def own : SourceTable := .ofList [("rules/main", "record_str()")]

theorem ofText_own : ofText own.toLibrary {} "@@import('main')" ⟨"main"⟩ (some ⟨"./rules"⟩) =
    .ok ⟨{}, [.call ⟨"rules/main", 1, 1⟩ "record_str" []]⟩ := by
  have hread : Expansion.readSource ⟨⟨"./rules/main"⟩, "@@import('main')"⟩ = .ok ⟨[], [.directive
      ⟨"import", [.literal ⟨"./rules/main", 1, 10⟩ (.string "main")], true,
        ⟨"./rules/main", 1, 1⟩⟩]⟩ := by
    decide +kernel
  have hsteps : Expansion.expand own.toLibrary ⟨"./rules/main"⟩ [.directive
      ⟨"import", [.literal ⟨"./rules/main", 1, 10⟩ (.string "main")], true,
        ⟨"./rules/main", 1, 1⟩⟩] =
      .ok [.call ⟨"rules/main", 1, 1⟩ "record_str" []] := by
    decide +kernel
  have hid : (SourcePath.mk "./rules").join ⟨"main"⟩ = ⟨"./rules/main"⟩ := by decide +kernel
  rw [ofText_eq, hid]
  exact ofSource_eq_ok.mpr ⟨_, _, hread, by rfl, hsteps, by cbv⟩

/-- The directories `rules` and `./rules` are one, but a text with the name of a file in it can import
this file only with the second spelling. -/
theorem ofText_importing_own_path :
    (SourcePath.mk "rules").normalize = (SourcePath.mk "./rules").normalize ∧
    ofText own.toLibrary {} "@@import('main')" ⟨"main"⟩ (some ⟨"rules"⟩) =
      .error (.importCycle [⟨"rules/main"⟩, ⟨"rules/main"⟩]) ∧
    ofText own.toLibrary {} "@@import('main')" ⟨"main"⟩ (some ⟨"./rules"⟩) =
      .ok ⟨{}, [.call ⟨"rules/main", 1, 1⟩ "record_str" []]⟩ :=
  ⟨by decide +kernel, by decide +kernel, ofText_own⟩

end RecordScript.Program.Spelling
