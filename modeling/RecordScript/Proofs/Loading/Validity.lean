import Mathlib
import RecordScript.Loading.Basic
import RecordScript.Pattern.PlaceEngine
import RecordScript.Proofs.Loading.Expansion
import RecordScript.Proofs.Loading.Header
import RecordScript.Proofs.Loading.Preparation
import RecordScript.Proofs.Spelled.Agreement
import RecordScript.Proofs.Syntax.Decode
import RecordScript.Proofs.Syntax.Equality
import RecordScript.Source.Table

/-!
# Valid programs

A program is loaded exactly if it is valid together with everything it imports. Validity is said of
chains of imports, without a stack, a depth or an order of checks: a stack of the expansion is such
a chain, and a chain without repetitions is no longer than the library allows.
-/

namespace RecordScript

open Result

variable [RegexEngine]

/-- The directive is an import of one path. -/
def DirectiveOf.Imports (d : Directive) (path : String) : Prop :=
  d.inline = true ∧ d.name = "import" ∧ ∃ pos, d.args = [.literal pos (.string path)]

namespace Expansion

theorem importPath_eq_ok {d : Directive} {path : String} :
    importPath d = .ok path ↔ d.Imports path := by
  rw [importPath, DirectiveOf.Imports]
  cases hinline : d.inline with
  | false => simp [throw, throwThe, MonadExceptOf.throw]
  | true =>
    by_cases hname : d.name = "import"
    · have hpath : (∃ pos, d.args = [.literal pos (.string path)]) ↔ d.texts = .ok [path] := by
        rw [Directive.texts_eq_ok]
        simp [List.forall₂_cons_right_iff]
      rw [hpath]
      cases d.texts with
      | error fault => simp [hname]
      | ok ss => rcases ss with _ | ⟨s, _ | ⟨t, ss⟩⟩ <;> simp [hname]
    · simp [hname]

/-- A directive imports the source that its path resolves to. -/
theorem importSource_eq_ok {resolve : Resolver} {dir : Option SourcePath} {d : Directive}
    {source : Source} :
    importSource resolve dir d = .ok source ↔
      ∃ path, d.Imports path ∧ resolve path dir = .ok source := by
  rw [importSource]
  simp only [← importPath_eq_ok]
  cases importPath d with
  | error fault => simp
  | ok path =>
    simp only [Except.ok.injEq, exists_eq_left']
    cases resolve path dir <;> simp

end Expansion

/-- The sources form a chain of imports, with the root at its end: each is imported by a directive
of the next one. -/
inductive ImportChain (library : Library) (root : Source) : List Source → Prop
  | root : ImportChain library root [root]
  | cons {source : Source} {rest : List Source} {file : SourceFile} {d : Directive} {path : String}
      {imported : Source} (chain : ImportChain library root (source :: rest))
      (read : Expansion.readSource source = .ok file)
      (directive : d ∈ StatementOf.blockDirectives file.statements) (imports : d.Imports path)
      (resolve : library.resolve path source.id.parent? = .ok imported) :
      ImportChain library root (imported :: source :: rest)

/-- The file belongs to the program of the root: its source is the root or is imported. -/
def IsPart (library : Library) (root : Source) (file : SourceFile) : Prop :=
  ∃ source chain, ImportChain library root (source :: chain) ∧
    Expansion.readSource source = .ok file

/-- The program of the root is valid with all that it imports. Nothing is asked of the headers of
imported files. -/
structure IsValid (library : Library) (root : Source) : Prop where
  header : ∃ file, Expansion.readSource root = .ok file ∧ IsHeader file.header
  read : ∀ source chain, ImportChain library root (source :: chain) →
    ∃ file, Expansion.readSource source = .ok file
  imports : ∀ source chain file, ImportChain library root (source :: chain) →
    Expansion.readSource source = .ok file → ∀ d ∈ StatementOf.blockDirectives file.statements,
      ∃ path imported, d.Imports path ∧ library.resolve path source.id.parent? = .ok imported
  acyclic : ∀ source chain, ImportChain library root (source :: chain) →
    ∀ s ∈ chain, source.id.same s.id = false
  calls : ∀ file, IsPart library root file → ∀ pos function args,
    .call pos function args ∈ StatementOf.blockExpressions file.statements →
      IsGoodCall function args
  barePatterns : ∀ file, IsPart library root file → ∀ pos pattern,
    .barePattern pos pattern ∈ StatementOf.blockExpressions file.statements →
      ∃ rootFile, Expansion.readSource root = .ok rootFile ∧
        ∃ d ∈ rootFile.header, d.name = "default_field"

variable {library : Library} {root : Source}

namespace ImportChain

/-- All sources of a chain but the root come from the library. -/
theorem mem_ids {chain : List Source} (h : ImportChain library root chain) :
    ∀ s ∈ chain.dropLast, s.id ∈ library.ids := by
  induction h with
  | root => simp
  | cons chain read directive imports resolve ih =>
    rw [List.dropLast_cons_of_ne_nil (List.cons_ne_nil _ _), List.forall_mem_cons]
    exact ⟨library.resolve_mem resolve, ih⟩

theorem nodup_ids
    (hacyclic : ∀ source chain, ImportChain library root (source :: chain) →
      ∀ s ∈ chain, source.id.same s.id = false)
    {chain : List Source} (h : ImportChain library root chain) :
    (chain.map Source.id).Nodup := by
  have hcons := h
  induction h with
  | root => exact List.nodup_singleton _
  | cons chain read directive imports resolve ih =>
    rw [List.map_cons, List.nodup_cons]
    refine ⟨fun hmem => ?_, ih chain⟩
    obtain ⟨s, hs, hid⟩ := List.mem_map.mp hmem
    have hsame := hacyclic _ _ hcons s hs
    simp [SourcePath.same, hid] at hsame

/-- A chain without repetitions is no longer than the library allows. -/
theorem length_le
    (hacyclic : ∀ source chain, ImportChain library root (source :: chain) →
      ∀ s ∈ chain, source.id.same s.id = false)
    {chain : List Source} (h : ImportChain library root chain) :
    chain.length ≤ library.ids.length + 1 := by
  have hnodup : (chain.dropLast.map Source.id).Nodup :=
    (h.nodup_ids hacyclic).sublist ((List.dropLast_sublist chain).map Source.id)
  have hsubset : chain.dropLast.map Source.id ⊆ library.ids := by
    intro id hid
    obtain ⟨s, hs, rfl⟩ := List.mem_map.mp hid
    exact h.mem_ids s hs
  have hlength := (hnodup.subperm hsubset).length_le
  rw [List.length_map, List.length_dropLast] at hlength
  omega

end ImportChain

namespace Expansion

omit [RegexEngine] in
/-- A stack whose active sources are those of a chain finds a source active only if the chain has
it. -/
theorem isActive_eq_false {stack : ImportStack} {chain : List Source} {id : SourcePath}
    (hstack : stack.active = chain.map Source.id) (h : ∀ s ∈ chain, id.same s.id = false) :
    stack.isActive id = false := by
  rw [ImportStack.isActive, hstack, List.any_map, List.any_eq_false]
  intro s hs
  simp [h s hs]

/-- In a valid program the statements of every source give steps, if imports may be nested deep
enough, and all expressions of the steps come from files of the program. -/
theorem gives_of_isValid (hvalid : IsValid library root) (depth : Nat) {source : Source}
    {rest : List Source} {file : SourceFile} {stack : ImportStack}
    (hchain : ImportChain library root (source :: rest)) (hread : readSource source = .ok file)
    (hstack : stack.active = (source :: rest).map Source.id)
    (hdepth : library.ids.length + 2 ≤ (source :: rest).length + depth) :
    ∃ steps, (expandBlock (splice library depth source.id.parent?) file.statements).Gives
        stack steps ∧
      ∀ x ∈ Step.blockExpressions steps,
        ∃ part, IsPart library root part ∧ x ∈ StatementOf.blockExpressions part.statements := by
  -- induction on the depth, which a chain without repetitions cannot use up
  induction depth generalizing source rest file stack with
  | zero =>
    have hlength := hchain.length_le hvalid.acyclic
    omega
  | succ depth ih =>
    have hdirective : ∀ d, ∃ out, d ∈ StatementOf.blockDirectives file.statements →
        (splice library (depth + 1) source.id.parent? d).Gives stack out ∧
        ∀ x ∈ Step.blockExpressions out,
          ∃ part, IsPart library root part ∧ x ∈ StatementOf.blockExpressions part.statements := by
      intro d
      by_cases hd : d ∈ StatementOf.blockDirectives file.statements
      · obtain ⟨path, imported, himports, hresolve⟩ :=
          hvalid.imports source rest file hchain hread d hd
        have hcons := ImportChain.cons hchain hread hd himports hresolve
        obtain ⟨importedFile, himported⟩ := hvalid.read _ _ hcons
        have hactive := isActive_eq_false hstack (hvalid.acyclic _ _ hcons)
        have hpush : (stack.push imported.id).active =
            (imported :: source :: rest).map Source.id := by
          simp [hstack]
        have hdepth' : library.ids.length + 2 ≤ (imported :: source :: rest).length + depth := by
          simp only [List.length_cons] at hdepth ⊢
          omega
        obtain ⟨out, hout, hparts⟩ := ih hcons himported hpush hdepth'
        exact ⟨out, fun _ => ⟨splice_succ_gives.mpr ⟨imported, importedFile,
          importSource_eq_ok.mpr ⟨path, himports, hresolve⟩, hactive, himported, hout⟩, hparts⟩⟩
      · exact ⟨[], fun hd' => absurd hd' hd⟩
    choose out hout using hdirective
    refine ⟨assembleBlock out file.statements,
      expandBlock_gives (splice_balanced _ _) fun d hd => (hout d hd).1, fun x hx => ?_⟩
    rcases mem_expressions_assembleBlock.mp hx with hx | ⟨d, hd, hx⟩
    · exact ⟨file, ⟨source, rest, hchain, hread⟩, hx⟩
    · exact (hout d hd).2 x hx

/-- If the statements of the root give steps, then so do those of every source that a chain of
imports leads to, and their expressions are among those of the root. -/
theorem gives_of_chain {depth : Nat} {file : SourceFile} {steps : List Step}
    (hread : readSource root = .ok file)
    (hgives : (expandBlock (splice library depth root.id.parent?) file.statements).Gives
      (.start root.id) steps)
    {chain : List Source} (hchain : ImportChain library root chain) :
    ∃ source rest file depth stack out, chain = source :: rest ∧
      (∀ s ∈ rest, source.id.same s.id = false) ∧ readSource source = .ok file ∧
      stack.active = chain.map Source.id ∧
      (expandBlock (splice library depth source.id.parent?) file.statements).Gives stack out ∧
      Step.blockExpressions out ⊆ Step.blockExpressions steps := by
  induction hchain with
  | root =>
    exact ⟨root, [], file, depth, .start root.id, steps, rfl, by simp, hread, rfl, hgives,
      List.Subset.refl _⟩
  | cons chain read directive imports resolve ih =>
    obtain ⟨source, rest, file', depth, stack, out, heq, -, hread', hstack, hout, hsubset⟩ := ih
    obtain ⟨rfl, rfl⟩ := List.cons.inj heq
    obtain rfl := Except.ok.inj (read.symm.trans hread')
    obtain ⟨g, hg, rfl⟩ := (expandBlock_gives_iff (splice_balanced _ _)).mp hout
    have hd := hg _ directive
    cases depth with
    | zero => cases hd
    | succ depth =>
      obtain ⟨imported, importedFile, hsource, hactive, himported, hblock⟩ :=
        splice_succ_gives.mp hd
      obtain rfl := Except.ok.inj
        (hsource.symm.trans (importSource_eq_ok.mpr ⟨_, imports, resolve⟩))
      refine ⟨_, _, importedFile, depth, _, _, rfl, ?_, himported, ?_, hblock, ?_⟩
      · rw [ImportStack.isActive, hstack, List.any_map, List.any_eq_false] at hactive
        simpa using hactive
      · simp [hstack]
      · intro x hx
        exact hsubset (mem_expressions_assembleBlock.mpr (.inr ⟨_, directive, hx⟩))

/-- What the statements of the root say of a source that a chain leads to. -/
theorem exists_gives_of_chain {depth : Nat} {file : SourceFile} {steps : List Step}
    (hread : readSource root = .ok file)
    (hgives : (expandBlock (splice library depth root.id.parent?) file.statements).Gives
      (.start root.id) steps)
    {source : Source} {rest : List Source} (hchain : ImportChain library root (source :: rest)) :
    (∀ s ∈ rest, source.id.same s.id = false) ∧ ∃ part depth stack out,
      readSource source = .ok part ∧
      (expandBlock (splice library depth source.id.parent?) part.statements).Gives stack out ∧
      Step.blockExpressions out ⊆ Step.blockExpressions steps := by
  obtain ⟨source', rest', part, depth', stack, out, heq, hacyclic, hread', -, hout, hsubset⟩ :=
    gives_of_chain hread hgives hchain
  obtain ⟨rfl, rfl⟩ := List.cons.inj heq
  exact ⟨hacyclic, part, depth', stack, out, hread', hout, hsubset⟩

end Expansion

/-- The patterns of a file do not ignore case. -/
theorem IsPart.ignoreCase {file : SourceFile} (h : IsPart library root file) {pos : Position}
    {p : Pattern} (hp : .literal pos (.regex p) ∈ StatementOf.blockExpressions file.statements) :
    p.ignoreCase = false := by
  obtain ⟨source, chain, -, hread⟩ := h
  simp only [Expansion.readSource, SourceFile.read_eq, mapError_eq_ok, bind_eq_ok] at hread
  obtain ⟨spelled, -, hdecode⟩ := hread
  exact SpelledFile.ignoreCase_of_decode hdecode hp

namespace Program

variable {options : LoadOptions}

theorem ofSourceWith_eq_ok {expand : SourcePath → List Statement → Except LoadError (List Step)}
    {p : Program} :
    ofSourceWith expand options root = .ok p ↔ ∃ file steps,
      Expansion.readSource root = .ok file ∧ Config.ofHeader options file.header = .ok p.config ∧
      expand root.id file.statements = .ok steps ∧ prepareSteps p.config steps = .ok p.steps := by
  obtain ⟨config, steps⟩ := p
  simp only [ofSourceWith, bind_eq_ok, pure_eq_ok, Program.mk.injEq]
  grind

theorem ofSource_eq_ok {p : Program} :
    ofSource library options root = .ok p ↔ ∃ file steps,
      Expansion.readSource root = .ok file ∧ Config.ofHeader options file.header = .ok p.config ∧
      Expansion.expand library root.id file.statements = .ok steps ∧
      prepareSteps p.config steps = .ok p.steps :=
  ofSourceWith_eq_ok

/-- What is loaded is valid. -/
theorem isValid_of_ofSource {p : Program} (h : ofSource library options root = .ok p) :
    IsValid library root := by
  obtain ⟨file, steps, hread, hconfig, hsteps, hprepare⟩ := ofSource_eq_ok.mp h
  have hpreparable := exists_prepareSteps_iff.mp ⟨_, hprepare⟩
  have hpart : ∀ part, IsPart library root part →
      ∀ x ∈ StatementOf.blockExpressions part.statements, Expr.IsPreparable p.config x := by
    rintro part ⟨source, rest, hchain, hread'⟩ x hx
    obtain ⟨-, part', depth, stack, out, hread'', hout, hsubset⟩ :=
      Expansion.exists_gives_of_chain hread hsteps hchain
    obtain rfl := Except.ok.inj (hread'.symm.trans hread'')
    obtain ⟨g, -, rfl⟩ :=
      (Expansion.expandBlock_gives_iff (Expansion.splice_balanced _ _)).mp hout
    exact hpreparable x (hsubset (mem_expressions_assembleBlock.mpr (.inl hx)))
  constructor
  case header => exact ⟨file, hread, Config.exists_ofHeader_iff.mp ⟨_, hconfig⟩⟩
  case read =>
    intro source rest hchain
    obtain ⟨-, part, -, -, -, hread', -⟩ := Expansion.exists_gives_of_chain hread hsteps hchain
    exact ⟨part, hread'⟩
  case imports =>
    intro source rest part hchain hread' d hd
    obtain ⟨-, part', depth, stack, out, hread'', hout, -⟩ :=
      Expansion.exists_gives_of_chain hread hsteps hchain
    obtain rfl := Except.ok.inj (hread'.symm.trans hread'')
    obtain ⟨out', hgives⟩ :=
      Expansion.exists_gives_of_expandBlock (Expansion.splice_balanced _ _) hout d hd
    cases depth with
    | zero => cases hgives
    | succ depth =>
      obtain ⟨imported, -, hsource, -⟩ := Expansion.splice_succ_gives.mp hgives
      obtain ⟨path, himports, hresolve⟩ := Expansion.importSource_eq_ok.mp hsource
      exact ⟨path, imported, himports, hresolve⟩
  case acyclic =>
    exact fun source rest hchain => (Expansion.exists_gives_of_chain hread hsteps hchain).1
  case calls =>
    intro part hpart' pos function args hx
    exact hpart part hpart' _ hx
  case barePatterns =>
    intro part hpart' pos pattern hx
    exact ⟨file, hread, (Config.defaultField_of_ofHeader hconfig).mp (hpart part hpart' _ hx)⟩

/-- What is valid is loaded, if its patterns can be read without regard to case. -/
theorem exists_ofSource_of_isValid (hvalid : IsValid library root)
    (hregex : ∀ file, IsPart library root file → ∀ pos p,
      .literal pos (.regex p) ∈ StatementOf.blockExpressions file.statements →
        ∃ q, Pattern.ofSource p.source true = .ok q) :
    ∃ p, ofSource library options root = .ok p := by
  obtain ⟨file, hread, hheader⟩ := hvalid.header
  have hconfig : ∃ config, Config.ofHeader options file.header = .ok config :=
    Config.exists_ofHeader_iff.mpr hheader
  obtain ⟨config, hconfig⟩ := hconfig
  obtain ⟨steps, hsteps, hparts⟩ := Expansion.gives_of_isValid hvalid (library.ids.length + 2)
    .root hread (show (ImportStack.start root.id).active = _ from rfl) (by simp)
  have hprepare : ∃ steps', prepareSteps config steps = .ok steps' := by
    rw [exists_prepareSteps_iff]
    intro x hx
    obtain ⟨part, hpart, hx⟩ := hparts x hx
    cases x with
    | literal pos value =>
      cases value with
      | regex p => exact fun _ => hregex part hpart pos p hx
      | _ => trivial
    | call pos function args => exact hvalid.calls part hpart pos function args hx
    | barePattern pos pattern =>
      obtain ⟨rootFile, hroot, hdefault⟩ := hvalid.barePatterns part hpart pos pattern hx
      obtain rfl := Except.ok.inj (hread.symm.trans hroot)
      exact (Config.defaultField_of_ofHeader hconfig).mpr hdefault
    | _ => trivial
  obtain ⟨steps', hprepare⟩ := hprepare
  exact ⟨⟨config, steps'⟩, ofSource_eq_ok.mpr ⟨file, steps, hread, hconfig, hsteps, hprepare⟩⟩

/-- A program is loaded exactly if it is valid, provided that those of its patterns that can be read
with regard to case can be read without. Its configuration is that of the header of the root. -/
theorem exists_ofSource_iff_isValid (library : Library) (options : LoadOptions) (root : Source)
    (hregex : ∀ file, IsPart library root file → ∀ pos p,
      .literal pos (.regex p) ∈ StatementOf.blockExpressions file.statements →
        (∃ q, Pattern.ofSource p.source false = .ok q) →
          ∃ q, Pattern.ofSource p.source true = .ok q) :
    ((∃ p, ofSource library options root = .ok p) ↔ IsValid library root) ∧
      ∀ p, ofSource library options root = .ok p → ∃ file,
        Expansion.readSource root = .ok file ∧ Config.ofHeader options file.header = .ok p.config := by
  refine ⟨⟨fun ⟨p, hp⟩ => isValid_of_ofSource hp, fun hvalid => ?_⟩, fun p hp => ?_⟩
  · refine exists_ofSource_of_isValid hvalid fun file hfile pos p hp => ?_
    exact hregex file hfile pos p hp ⟨p, Pattern.ofSource_eq_ok.mpr ⟨rfl, hfile.ignoreCase hp⟩⟩
  · obtain ⟨file, -, hread, hconfig, -⟩ := ofSource_eq_ok.mp hp
    exact ⟨file, hread, hconfig⟩

end Program

end RecordScript

namespace RecordScript.Program.IgnoredHeader

/-- A program that imports another. -/
def importing : Source := ⟨⟨"m"⟩, "@@import('b')"⟩

/-- A program whose header is invalid. -/
def imported : Source := ⟨⟨"b"⟩, "@no x=y~/a/"⟩

/-- A library that holds the program that is imported. -/
def shelf : Library := (SourceTable.ofList [("b", "@no x=y~/a/")]).toLibrary

/-- The import of the program. -/
def directive : Directive :=
  ⟨"import", [.literal ⟨"m", 1, 10⟩ (.string "b")], true, ⟨"m", 1, 1⟩⟩

/-- The expression of the program that is imported. -/
def matching : Expr :=
  .pattern ⟨"b", 1, 7⟩ (.field ⟨"b", 1, 7⟩ "y") (.literal ⟨"b", 1, 9⟩
    (.regex (Regex.pattern (.leaf (.oneOf (.range 'a' 'a'))) "a" false (by cbv))))

theorem readSource_importing :
    Expansion.readSource importing = .ok ⟨[], [.directive directive]⟩ := by
  decide +kernel

theorem readSource_imported : Expansion.readSource imported =
    .ok ⟨[⟨"no", [], false, ⟨"b", 1, 1⟩⟩], [.assign ⟨"b", 1, 5⟩ "x" matching]⟩ := by
  decide +kernel

theorem resolve_imported : shelf.resolve "b" importing.id.parent? = .ok imported := by
  unfold shelf importing imported
  cbv

theorem chain_eq {chain : List Source} (h : ImportChain shelf importing chain) :
    chain = [importing] ∨ chain = [imported, importing] := by
  induction h with
  | root => exact .inl rfl
  | cons chain read hd imports resolve ih =>
    rcases ih with heq | heq
    · obtain ⟨rfl, rfl⟩ := List.cons.inj heq
      obtain rfl := Except.ok.inj (readSource_importing.symm.trans read)
      obtain rfl := List.mem_singleton.mp hd
      obtain ⟨-, -, pos, hargs⟩ := imports
      obtain ⟨rfl, rfl⟩ : _ = pos ∧ "b" = _ := by simpa [directive] using hargs
      obtain rfl := Except.ok.inj (resolve_imported.symm.trans resolve)
      exact .inr rfl
    · obtain ⟨rfl, rfl⟩ := List.cons.inj heq
      obtain rfl := Except.ok.inj (readSource_imported.symm.trans read)
      cases hd

theorem eq_of_isPart {file : SourceFile} : IsPart shelf importing file →
    file = ⟨[], [.directive directive]⟩ ∨
      file = ⟨[⟨"no", [], false, ⟨"b", 1, 1⟩⟩], [.assign ⟨"b", 1, 5⟩ "x" matching]⟩ := by
  rintro ⟨source, rest, hchain, hread⟩
  rcases chain_eq hchain with heq | heq <;> obtain ⟨rfl, rfl⟩ := List.cons.inj heq
  · exact .inl (Except.ok.inj (hread.symm.trans readSource_importing))
  · exact .inr (Except.ok.inj (hread.symm.trans readSource_imported))

theorem mem_expressions {file : SourceFile} (h : IsPart shelf importing file) :
    ∀ x ∈ StatementOf.blockExpressions file.statements, x ∈ matching.nodes := by
  rcases eq_of_isPart h with rfl | rfl <;>
    simp [StatementOf.blockExpressions, StatementOf.expressions]

theorem isValid_importing : IsValid shelf importing where
  header := ⟨_, readSource_importing, by simp, List.nodup_nil⟩
  read := by
    intro source rest hchain
    rcases chain_eq hchain with heq | heq <;> obtain ⟨rfl, rfl⟩ := List.cons.inj heq
    · exact ⟨_, readSource_importing⟩
    · exact ⟨_, readSource_imported⟩
  imports := by
    intro source rest file hchain hread d hd
    rcases chain_eq hchain with heq | heq <;> obtain ⟨rfl, rfl⟩ := List.cons.inj heq
    · obtain rfl := Except.ok.inj (readSource_importing.symm.trans hread)
      obtain rfl := List.mem_singleton.mp hd
      exact ⟨"b", imported, ⟨rfl, rfl, _, rfl⟩, resolve_imported⟩
    · obtain rfl := Except.ok.inj (readSource_imported.symm.trans hread)
      cases hd
  acyclic := by
    intro source rest hchain
    rcases chain_eq hchain with heq | heq <;> obtain ⟨rfl, rfl⟩ := List.cons.inj heq
    · simp
    · simp
      decide
  calls := by
    intro file hfile pos function args hx
    simpa [matching, ExprOf.nodes] using mem_expressions hfile _ hx
  barePatterns := by
    intro file hfile pos pattern hx
    simpa [matching, ExprOf.nodes] using mem_expressions hfile _ hx

theorem exists_ofSource_true {file : SourceFile} (hfile : IsPart shelf importing file)
    {pos : Position} {p : Pattern}
    (hp : .literal pos (.regex p) ∈ StatementOf.blockExpressions file.statements) :
    ∃ q, Pattern.ofSource p.source true = .ok q := by
  have hmem := mem_expressions hfile _ hp
  simp [matching, ExprOf.nodes] at hmem
  obtain ⟨-, rfl⟩ := hmem
  exact ⟨⟨"a", true, _, rfl⟩, Pattern.ofSource_eq_ok.mpr ⟨rfl, rfl⟩⟩

/-- The program is loaded, since the header of what it imports does not count. -/
theorem exists_ofSource_importing :
    (∀ file, IsPart shelf importing file → ∀ pos p,
      .literal pos (.regex p) ∈ StatementOf.blockExpressions file.statements →
        (∃ q, Pattern.ofSource p.source false = .ok q) →
          ∃ q, Pattern.ofSource p.source true = .ok q) ∧
    IsValid shelf importing ∧ ∃ p, ofSource shelf {} importing = .ok p := by
  have hregex : ∀ file, IsPart shelf importing file → ∀ pos p,
      .literal pos (.regex p) ∈ StatementOf.blockExpressions file.statements →
        (∃ q, Pattern.ofSource p.source false = .ok q) →
          ∃ q, Pattern.ofSource p.source true = .ok q :=
    fun file hfile pos p hp _ => exists_ofSource_true hfile hp
  exact ⟨hregex, isValid_importing,
    (exists_ofSource_iff_isValid shelf {} importing hregex).1.mpr isValid_importing⟩

end RecordScript.Program.IgnoredHeader
