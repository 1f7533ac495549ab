import Mathlib.Logic.Relation
import RecordScript.Pattern.PlaceEngine
import RecordScript.Proofs.Loading.Termination
import RecordScript.Proofs.Loading.Unfolding
import RecordScript.Proofs.Source.Lookup
import RecordScript.Proofs.Syntax.Equality

/-!
# Import cycles

A program is refused for a cycle of imports exactly where it has one. The chain that is reported is
one of imports that are made, from the root to the first source that is on it already; in a program
that is loaded, no import leads back to where it came from.
-/

namespace RecordScript

open Result

variable [RegexEngine]

/-! ### Errors that report no cycle -/

theorem Value.prepare_ne_importCycle (config : Config) (pos : Position) (v : Value)
    (chain : List SourcePath) : v.prepare config pos ≠ .error (.importCycle chain) := by
  cases v with
  | regex p =>
    rw [Value.prepare]
    split
    · split <;> simp
    · simp
  | _ => simp [Value.prepare]

/-- An expression whose preparation reports a cycle has it from a child. -/
theorem Expr.exists_child_of_prepare_eq_importCycle {config : Config} {e : Expr}
    {chain : List SourcePath} (h : e.prepare config = .error (.importCycle chain)) :
    ∃ c ∈ e.children, Expr.prepare config c = .error (.importCycle chain) := by
  cases e with
  | literal pos v =>
    rw [Expr.prepare, bind_eq_error] at h
    rcases h with h | ⟨_, -, h⟩
    · exact absurd h (Value.prepare_ne_importCycle _ _ _ _)
    · cases h
  | field pos name =>
    rw [Expr.prepare] at h
    cases h
  | call pos function args =>
    rw [Expr.prepare, bind_eq_error] at h
    rcases h with h | ⟨_, -, h⟩
    · rw [prepareCall] at h
      split at h
      · cases h
      · split at h
        · rw [prepareArgs_eq] at h
          exact exists_mem_of_mapM_eq_error h
        · cases h
    · cases h
  | barePattern pos pattern =>
    rw [Expr.prepare] at h
    split at h
    · cases h
    · rcases bind_eq_error.mp h with h | ⟨_, -, h⟩
      · exact ⟨pattern, List.mem_singleton_self _, h⟩
      · cases h
  | unary pos op operand =>
    rw [Expr.prepare] at h
    rcases bind_eq_error.mp h with h | ⟨_, -, h⟩
    · exact ⟨operand, List.mem_singleton_self _, h⟩
    · cases h
  | _ =>
    -- a node with two operands
    rw [Expr.prepare] at h
    rcases bind_eq_error.mp h with h | ⟨_, -, h⟩
    · exact ⟨_, List.mem_cons_self, h⟩
    · rcases bind_eq_error.mp h with h | ⟨_, -, h⟩
      · exact ⟨_, List.mem_cons_of_mem _ (List.mem_singleton_self _), h⟩
      · cases h

/-- The preparation of an expression reports no cycle. -/
theorem Expr.prepare_ne_importCycle (config : Config) (e : Expr) (chain : List SourcePath) :
    e.prepare config ≠ .error (.importCycle chain) := by
  induction e using ExprOf.inductionOnChildren with
  | step e ih =>
    intro h
    obtain ⟨c, hc, h⟩ := exists_child_of_prepare_eq_importCycle h
    exact ih c hc h

theorem prepareSteps_ne_importCycle_of_forall {config : Config} {chain : List SourcePath}
    {ss : List Step} (h : ∀ s ∈ ss, Step.prepare config s ≠ .error (.importCycle chain)) :
    prepareSteps config ss ≠ .error (.importCycle chain) := by
  rw [prepareSteps_eq]
  intro hss
  obtain ⟨s, hs, hcycle⟩ := exists_mem_of_mapM_eq_error hss
  exact h s hs hcycle

/-- The preparation of a step reports no cycle. -/
theorem Step.prepare_ne_importCycle (config : Config) (s : Step) (chain : List SourcePath) :
    s.prepare config ≠ .error (.importCycle chain) := by
  induction s with
  | assign pos field value =>
    intro h
    rcases bind_eq_error.mp h with h | ⟨_, -, h⟩
    · exact Expr.prepare_ne_importCycle _ _ _ h
    · cases h
  | call pos function args =>
    intro h
    rcases bind_eq_error.mp h with h | ⟨_, -, h⟩
    · refine Expr.prepare_ne_importCycle config (.call pos function args) chain ?_
      rw [Expr.prepare, h]
      rfl
    · cases h
  | rule arms otherwise iharms ihother =>
    intro h
    rw [Step.prepare] at h
    rcases bind_eq_error.mp h with h | ⟨_, -, h⟩
    · obtain ⟨a, ha, h⟩ := exists_mem_of_mapM_eq_error (prepareArms_eq config arms ▸ h)
      rw [Arm.prepare] at h
      rcases bind_eq_error.mp h with h | ⟨_, -, h⟩
      · exact Expr.prepare_ne_importCycle _ _ _ h
      rcases bind_eq_error.mp h with h | ⟨_, -, h⟩
      · exact prepareSteps_ne_importCycle_of_forall (iharms a ha) h
      · cases h
    · cases otherwise with
      | none => cases h
      | some body =>
        rcases bind_eq_error.mp h with h | ⟨_, -, h⟩
        · exact prepareSteps_ne_importCycle_of_forall (ihother body rfl) h
        · cases h

theorem prepareSteps_ne_importCycle (config : Config) (ss : List Step) (chain : List SourcePath) :
    prepareSteps config ss ≠ .error (.importCycle chain) :=
  prepareSteps_ne_importCycle_of_forall fun s _ => Step.prepare_ne_importCycle config s chain

theorem Config.ofHeader_ne_importCycle (options : LoadOptions) (header : List Directive)
    (chain : List SourcePath) : ofHeader options header ≠ .error (.importCycle chain) := by
  have hextend : ∀ (ds : List Directive) (config : Config) (seen : List String),
      config.extend seen ds ≠ .error (.importCycle chain) := by
    intro ds
    induction ds with
    | nil => simp [extend]
    | cons d ds ih =>
      intro config seen
      rw [extend]
      split
      · simp
      · split
        · exact ih _ _
        · simp
  exact hextend header _ _

namespace Expansion

variable {library : Library}

theorem importSource_ne_importCycle (dir : Option SourcePath) (d : Directive)
    (chain : List SourcePath) : importSource library dir d ≠ .error (.importCycle chain) := by
  rw [importSource]
  split
  · simp
  · split <;> simp

theorem readSource_ne_importCycle (source : Source) (chain : List SourcePath) :
    readSource source ≠ .error (.importCycle chain) := by
  rw [readSource]
  cases SourceFile.read source.id.text source.text <;> simp [Except.mapError]

end Expansion

/-! ### The reported chain -/

/-- The chain of imports leads to a source that is on it already, and repeats no source before. -/
structure ClosesCycle (library : Library) (root last : Source) (earlier : List Source) : Prop where
  chain : ImportChain library root (last :: earlier)
  distinct : earlier.Pairwise fun a b => a.id.same b.id = false
  again : ∃ s ∈ earlier, last.id.same s.id = true

variable {library : Library} {root : Source}

/-- Exactly one source before the last one has its path. -/
theorem ClosesCycle.countP_eq_one {last : Source} {earlier : List Source}
    (h : ClosesCycle library root last earlier) :
    earlier.countP (fun s => last.id.same s.id) = 1 := by
  obtain ⟨s, hmem, hsame⟩ := h.again
  obtain ⟨before, after, rfl⟩ := List.append_of_mem hmem
  obtain ⟨-, hafter, hcross⟩ := List.pairwise_append.mp h.distinct
  have hother : ∀ x ∈ before ++ after, last.id.same x.id ≠ true := by
    intro x hx hlast
    rw [SourcePath.same_iff] at hsame hlast
    rcases List.mem_append.mp hx with hx | hx
    · have hdistinct := hcross x hx s List.mem_cons_self
      rw [SourcePath.same_iff.mpr (hlast.symm.trans hsame)] at hdistinct
      cases hdistinct
    · have hdistinct := (List.pairwise_cons.mp hafter).1 x hx
      rw [SourcePath.same_iff.mpr (hsame.symm.trans hlast)] at hdistinct
      cases hdistinct
  rw [List.countP_append, List.countP_cons, if_pos hsame,
    List.countP_eq_zero.mpr fun x hx => hother x (List.mem_append_left _ hx),
    List.countP_eq_zero.mpr fun x hx => hother x (List.mem_append_right _ hx)]

/-- The stack is that of a chain of imports, latest first, which repeats no source. -/
structure IsStackOf (library : Library) (root : Source) (stack : ImportStack)
    (sources : List Source) : Prop where
  imports : ImportChain library root sources
  active_eq : stack.active = sources.map Source.id
  chain_eq : stack.chain = (sources.map Source.id).reverse
  distinct : sources.Pairwise fun a b => a.id.same b.id = false

namespace IsStackOf

theorem start : IsStackOf library root (.start root.id) [root] :=
  ⟨.root, rfl, rfl, List.pairwise_singleton _ _⟩

variable {stack : ImportStack} {sources : List Source} {imported : Source}

theorem isActive_eq (h : IsStackOf library root stack sources) (id : SourcePath) :
    stack.isActive id = sources.any fun s => id.same s.id := by
  rw [ImportStack.isActive, h.active_eq, List.any_map]
  rfl

/-- An import of a source that is not on the stack is put on it. -/
theorem push (h : IsStackOf library root stack sources)
    (himports : ImportChain library root (imported :: sources))
    (hfresh : stack.isActive imported.id = false) :
    IsStackOf library root (stack.push imported.id) (imported :: sources) where
  imports := himports
  active_eq := by simp [h.active_eq]
  chain_eq := by simp [ImportStack.push, h.chain_eq]
  distinct := by
    rw [h.isActive_eq, List.any_eq_false] at hfresh
    refine List.pairwise_cons.mpr ⟨fun s hs => ?_, h.distinct⟩
    simpa using hfresh s hs

/-- An import of a source that is on the stack closes a cycle. -/
theorem closesCycle (h : IsStackOf library root stack sources)
    (himports : ImportChain library root (imported :: sources))
    (hagain : stack.isActive imported.id = true) : ClosesCycle library root imported sources where
  chain := himports
  distinct := h.distinct
  again := by
    rw [h.isActive_eq] at hagain
    exact List.any_eq_true.mp hagain

end IsStackOf

namespace Expansion

variable {stack : ImportStack}

/-- What statements report, one of their directives reports. -/
theorem exists_directive_of_expandBlock_eq_error {splice : Directive → Except LoadError (List Step)}
    {ss : List Statement} {e : LoadError}
    (h : (expandBlock (fun d inner => (splice d, inner)) ss stack).1 = .error e) :
    ∃ d ∈ StatementOf.blockDirectives ss, splice d = .error e := by
  have hfailure := failure?_eq_some.mpr h
  rw [failure?_expandBlock fun _ _ => rfl] at hfailure
  obtain ⟨d, hd, hfailure⟩ := List.exists_of_findSome?_eq_some hfailure
  exact ⟨d, hd, failure?_eq_some.mp hfailure⟩

/-- An import reports a cycle for a source that is on the stack, or because an import of the
imported source does. -/
theorem exists_of_spliceFreely_eq_importCycle {dir : Option SourcePath} {d : Directive}
    {reported : List SourcePath}
    (h : spliceFreely library stack dir d = .error (.importCycle reported)) :
    ∃ imported, importSource library dir d = .ok imported ∧
      ((stack.isActive imported.id = true ∧ reported = stack.chain ++ [imported.id]) ∨
        (stack.isActive imported.id = false ∧ ∃ file d', readSource imported = .ok file ∧
          d' ∈ StatementOf.blockDirectives file.statements ∧
          spliceFreely library (stack.push imported.id) imported.id.parent? d' =
            .error (.importCycle reported))) := by
  rw [spliceFreely_eq] at h
  cases hsource : importSource library dir d with
  | error e =>
    simp only [hsource] at h
    exact absurd (hsource.trans (congrArg _ (Except.error.inj h)))
      (importSource_ne_importCycle _ _ _)
  | ok imported =>
    refine ⟨imported, rfl, ?_⟩
    simp only [hsource] at h
    cases hactive : stack.isActive imported.id with
    | true =>
      simp only [hactive, if_true] at h
      exact .inl ⟨rfl, (LoadError.importCycle.inj (Except.error.inj h)).symm⟩
    | false =>
      simp only [hactive, Bool.false_eq_true, if_false] at h
      cases hread : readSource imported with
      | error e =>
        simp only [hread] at h
        exact absurd (hread.trans (congrArg _ (Except.error.inj h))) (readSource_ne_importCycle _ _)
      | ok file =>
        simp only [hread] at h
        obtain ⟨d', hd', hreport⟩ := exists_directive_of_expandBlock_eq_error h
        exact .inr ⟨rfl, file, d', rfl, hd', hreport⟩

/-- A cycle that the import of a source reports is one on the chain of the source. -/
theorem exists_closesCycle {source : Source} {rest : List Source} {file : SourceFile}
    {d : Directive} {reported : List SourcePath}
    (hstack : IsStackOf library root stack (source :: rest)) (hread : readSource source = .ok file)
    (hd : d ∈ StatementOf.blockDirectives file.statements)
    (h : spliceFreely library stack source.id.parent? d = .error (.importCycle reported)) :
    ∃ last earlier, ClosesCycle library root last earlier ∧
      reported = ((last :: earlier).map Source.id).reverse := by
  -- each import that is followed leaves fewer paths of the library
  induction hfree : stack.free library using Nat.strongRecOn
    generalizing source rest file d stack with
  | ind n ih =>
    obtain ⟨imported, hsource, hreport⟩ := exists_of_spliceFreely_eq_importCycle h
    obtain ⟨path, himports, hresolve⟩ := importSource_eq_ok.mp hsource
    have hchain := ImportChain.cons hstack.imports hread hd himports hresolve
    rcases hreport with ⟨hagain, rfl⟩ | ⟨hfresh, file', d', hread', hd', hreport⟩
    · refine ⟨imported, source :: rest, hstack.closesCycle hchain hagain, ?_⟩
      rw [hstack.chain_eq, ← List.reverse_cons]
      rfl
    · have hlt := ImportStack.free_push_lt (library.resolve_mem hresolve) hfresh
      exact ih _ (hfree ▸ hlt) (hstack.push hchain hfresh) hread' hd' hreport rfl

end Expansion

/-- What is reported as a cycle is one. -/
theorem Program.exists_closesCycle {options : LoadOptions} {reported : List SourcePath}
    (h : ofSource library options root = .error (.importCycle reported)) :
    ∃ last earlier, ClosesCycle library root last earlier ∧
      reported = ((last :: earlier).map Source.id).reverse := by
  rw [ofSource] at h
  rcases bind_eq_error.mp h with h | ⟨file, hread, h⟩
  · exact absurd h (Expansion.readSource_ne_importCycle _ _)
  rcases bind_eq_error.mp h with h | ⟨config, -, h⟩
  · exact absurd h (Config.ofHeader_ne_importCycle _ _ _)
  rcases bind_eq_error.mp h with h | ⟨steps, -, h⟩
  · rw [Expansion.expand_eq_expandFreely] at h
    obtain ⟨d, hd, hreport⟩ := Expansion.exists_directive_of_expandBlock_eq_error h
    exact Expansion.exists_closesCycle .start hread hd hreport
  rcases bind_eq_error.mp h with h | ⟨_, -, h⟩
  · exact absurd h (prepareSteps_ne_importCycle _ _ _)
  · cases h

/-! ### Imports without cycles -/

/-- The root leads, by imports, to a source with the path `a` that imports one with the path `b`. -/
def ImportsPath (library : Library) (root : Source) (a b : SourcePath) : Prop :=
  ∃ source rest imported, ImportChain library root (imported :: source :: rest) ∧
    source.id.same a = true ∧ imported.id.same b = true

theorem ImportChain.getLast?_eq {chain : List Source} (h : ImportChain library root chain) :
    chain.getLast? = some root := by
  induction h with
  | root => rfl
  | cons _ _ _ _ _ ih => rw [List.getLast?_cons_cons, ih]

/-- A chain ends at the root, and all that it imports comes from the library. -/
theorem ImportChain.eq_root_or_resolve {source : Source} {rest : List Source}
    (h : ImportChain library root (source :: rest)) :
    (source = root ∧ rest = []) ∨
      root ∈ rest ∧ ∃ path dir, library.resolve path dir = .ok source := by
  generalize hchain : source :: rest = chain at h
  induction h generalizing source rest with
  | root => exact .inl (List.cons.inj hchain)
  | cons chain read directive imports resolve ih =>
    obtain ⟨rfl, rfl⟩ := List.cons.inj hchain
    refine .inr ⟨?_, _, _, resolve⟩
    rcases ih rfl with ⟨rfl, -⟩ | ⟨hroot, -⟩
    · exact List.mem_cons_self
    · exact List.mem_cons_of_mem _ hroot

omit [RegexEngine] in
/-- A table has at most one source under a path. -/
theorem SourceTable.eq_of_same {t : SourceTable} {path path' : String}
    {dir dir' : Option SourcePath} {a b : Source} (ha : t.resolve path dir = .ok a)
    (hb : t.resolve path' dir' = .ok b) (h : a.id.same b.id = true) : a = b := by
  have halookup := (resolve_eq_ok.mp ha).2
  have hblookup := (resolve_eq_ok.mp hb).2
  have hid : a.id = b.id :=
    (isNormalized_id_of_resolve ha).eq_of_same (isNormalized_id_of_resolve hb) h
  obtain ⟨aid, atext⟩ := a
  obtain ⟨bid, btext⟩ := b
  obtain rfl : aid = bid := hid
  obtain rfl : atext = btext := Option.some.inj (halookup.symm.trans hblookup)
  rfl

section Table

variable {t : SourceTable}

/-- Sources of a valid program with the same path are the same. -/
theorem IsValid.eq_of_same (hvalid : IsValid t.toLibrary root) {a b : Source} {as bs : List Source}
    (ha : ImportChain t.toLibrary root (a :: as)) (hb : ImportChain t.toLibrary root (b :: bs))
    (h : a.id.same b.id = true) : a = b := by
  have hnot : ∀ {s : Source} {rest : List Source}, ImportChain t.toLibrary root (s :: rest) →
      root ∈ rest → s.id.same root.id ≠ true := by
    intro s rest hchain hroot
    simp [hvalid.acyclic s rest hchain root hroot]
  rcases ha.eq_root_or_resolve with ⟨rfl, -⟩ | ⟨haroot, path, dir, haresolve⟩ <;>
    rcases hb.eq_root_or_resolve with ⟨rfl, -⟩ | ⟨hbroot, path', dir', hbresolve⟩
  · rfl
  · rw [SourcePath.same_comm] at h
    exact absurd h (hnot hb hbroot)
  · exact absurd h (hnot ha haroot)
  · exact SourceTable.eq_of_same haresolve hbresolve h

/-- In a valid program every chain can be followed along the imports of its last source. -/
theorem IsValid.exists_chain_of_transGen (hvalid : IsValid t.toLibrary root) {a b : SourcePath}
    (h : Relation.TransGen (ImportsPath t.toLibrary root) a b) {source : Source}
    {rest : List Source} (hchain : ImportChain t.toLibrary root (source :: rest))
    (hsource : source.id.same a = true) :
    ∃ target more, ImportChain t.toLibrary root (target :: (more ++ source :: rest)) ∧
      target.id.same b = true := by
  -- an import belongs to the source and not to a chain, so every chain to the source goes on by it
  have hstep : ∀ {x y : SourcePath} {s : Source} {before : List Source},
      ImportsPath t.toLibrary root x y → ImportChain t.toLibrary root (s :: before) →
      s.id.same x = true →
      ∃ target, ImportChain t.toLibrary root (target :: s :: before) ∧ target.id.same y = true := by
    rintro x y s before ⟨importer, importerRest, imported, hedge, himporter, himported⟩ hs hsx
    cases hedge with
    | cons chain read directive imports resolve =>
      have hsame : importer.id.same s.id = true := by
        rw [SourcePath.same_iff] at himporter hsx ⊢
        exact himporter.trans hsx.symm
      obtain rfl := hvalid.eq_of_same chain hs hsame
      exact ⟨imported, .cons hs read directive imports resolve, himported⟩
  induction h with
  | single hedge =>
    obtain ⟨target, htarget, hsame⟩ := hstep hedge hchain hsource
    exact ⟨target, [], htarget, hsame⟩
  | tail _ hedge ih =>
    obtain ⟨middle, more, hmiddle, hsame⟩ := ih
    obtain ⟨target, htarget, hsame⟩ := hstep hedge hmiddle hsame
    exact ⟨target, middle :: more, htarget, hsame⟩

/-- The imports of a valid program lead nowhere back. -/
theorem IsValid.not_transGen (hvalid : IsValid t.toLibrary root) (id : SourcePath) :
    ¬ Relation.TransGen (ImportsPath t.toLibrary root) id id := by
  intro h
  have hfirst : ∃ b, ImportsPath t.toLibrary root id b := by
    cases h with
    | single hedge => exact ⟨_, hedge⟩
    | tail hfirst _ =>
      obtain ⟨b, hedge, -⟩ := Relation.TransGen.head'_iff.mp hfirst
      exact ⟨b, hedge⟩
  obtain ⟨b, source, rest, imported, hedge, hsource, -⟩ := hfirst
  cases hedge with
  | cons chain =>
    obtain ⟨target, more, htarget, hsame⟩ := hvalid.exists_chain_of_transGen h chain hsource
    have hagain : target.id.same source.id = true := by
      rw [SourcePath.same_iff] at hsource hsame ⊢
      exact hsame.trans hsource.symm
    simp [hvalid.acyclic _ _ htarget source (by simp)] at hagain

end Table

namespace Program

/-- The expansion of imports by a table of sources, from any root, which may be a source of the
table or a text of its own. Expansion ends by itself: it is the recursion that has no bound on the
depth of imports. If a program is loaded, no path leads back to itself by imports, and its steps are
the unfolded imports, where every source is inlined once for each route to it. If an import cycle is
reported, the reported paths are those of a chain of imports from the root, all different but the
last one, which is equal to exactly one before it. So a program whose chains of imports do not
repeat a source is not refused for a cycle, by however many routes they reach it. -/
theorem expansion_of_table (t : SourceTable) (options : LoadOptions) (root : Source) :
    (∀ statements, Expansion.expand t.toLibrary root.id statements =
      Expansion.expandFreely t.toLibrary root.id statements) ∧
    (∀ p, ofSource t.toLibrary options root = .ok p →
      (∀ id, ¬ Relation.TransGen (ImportsPath t.toLibrary root) id id) ∧
      ∃ steps routes, prepareSteps p.config steps = .ok p.steps ∧
        Unfolds t.toLibrary root steps ∧ IsRouteList t.toLibrary root routes ∧
        (Step.blockExpressions steps).Perm (routes.flatMap fun r => r.2.expressions)) ∧
    (∀ reported, ofSource t.toLibrary options root = .error (.importCycle reported) →
      ∃ sources earlier last, ImportChain t.toLibrary root sources ∧
        reported = (sources.map Source.id).reverse ∧ reported = earlier ++ [last] ∧
        earlier.head? = some root.id ∧ (earlier.Pairwise fun a b => a.same b = false) ∧
        earlier.countP last.same = 1) ∧
    ((∀ source rest, ImportChain t.toLibrary root (source :: rest) →
        ∀ s ∈ rest, source.id.same s.id = false) →
      ∀ reported, ofSource t.toLibrary options root ≠ .error (.importCycle reported)) := by
  refine ⟨Expansion.expand_eq_expandFreely _ _, ?_, ?_, ?_⟩
  · intro p hp
    obtain ⟨file, steps, hread, -, hsteps, hprepare⟩ := ofSource_eq_ok.mp hp
    have hunfolds := Expansion.unfolds_of_gives hread hsteps
    obtain ⟨routes, hroutes, hperm⟩ := hunfolds.exists_isRouteList
    exact ⟨(isValid_of_ofSource hp).not_transGen, steps, routes, hprepare, hunfolds, hroutes, hperm⟩
  · intro reported hreported
    obtain ⟨last, earlier, hcycle, rfl⟩ := exists_closesCycle hreported
    refine ⟨last :: earlier, (earlier.map Source.id).reverse, last.id, hcycle.chain, rfl, by simp,
      ?_, ?_, ?_⟩
    · have hroot := hcycle.chain.getLast?_eq
      cases earlier with
      | nil => exact absurd hcycle.again (by simp)
      | cons s rest =>
        rw [List.getLast?_cons_cons] at hroot
        rw [List.head?_reverse, List.getLast?_map, hroot, Option.map_some]
    · rw [List.pairwise_reverse, List.pairwise_map]
      refine hcycle.distinct.imp fun {a b} hab => ?_
      rw [SourcePath.same_comm, hab]
    · rw [List.countP_reverse, List.countP_map]
      exact hcycle.countP_eq_one
  · intro hacyclic reported hreported
    obtain ⟨last, earlier, hcycle, -⟩ := exists_closesCycle hreported
    obtain ⟨s, hs, hsame⟩ := hcycle.again
    rw [hacyclic last earlier hcycle.chain s hs] at hsame
    cases hsame

end Program

end RecordScript

namespace RecordScript.Program

theorem ofSource_twice :
    ofSource (SourceTable.ofList [("c", "record_str()")]).toLibrary {}
        ⟨⟨"main"⟩, "@@import('c')\n@@import('./c')"⟩ =
      .ok ⟨{}, [.call ⟨"c", 1, 1⟩ "record_str" [], .call ⟨"c", 1, 1⟩ "record_str" []]⟩ := by
  have hread : Expansion.readSource ⟨⟨"main"⟩, "@@import('c')\n@@import('./c')"⟩ = .ok
      ⟨[], [.directive ⟨"import", [.literal ⟨"main", 1, 10⟩ (.string "c")], true, ⟨"main", 1, 1⟩⟩,
        .directive ⟨"import", [.literal ⟨"main", 2, 10⟩ (.string "./c")], true, ⟨"main", 2, 1⟩⟩]⟩ := by
    decide +kernel
  have hsteps : Expansion.expand (SourceTable.ofList [("c", "record_str()")]).toLibrary ⟨"main"⟩
      [.directive ⟨"import", [.literal ⟨"main", 1, 10⟩ (.string "c")], true, ⟨"main", 1, 1⟩⟩,
        .directive ⟨"import", [.literal ⟨"main", 2, 10⟩ (.string "./c")], true, ⟨"main", 2, 1⟩⟩] =
      .ok [.call ⟨"c", 1, 1⟩ "record_str" [], .call ⟨"c", 1, 1⟩ "record_str" []] := by
    decide +kernel
  exact ofSource_eq_ok.mpr ⟨_, _, hread, by rfl, hsteps, by cbv⟩

theorem ofSource_cyclic :
    ofSource (SourceTable.ofList [("c", "@@import('c')")]).toLibrary {}
        ⟨⟨"main"⟩, "@@import('c')"⟩ =
      .error (.importCycle [⟨"main"⟩, ⟨"c"⟩, ⟨"c"⟩]) := by
  decide +kernel

/-- A program that imports another one twice is loaded with two copies of it, and one that imports a
source that imports itself is refused with the chain that shows it. -/
theorem expansion_of_table_twice :
    (∃ (t : SourceTable) (root : Source) (p : Program) (c : Position), c.source = "c" ∧
      ofSource t.toLibrary {} root = .ok p ∧
      p.steps = [.call c "record_str" [], .call c "record_str" []] ∧
      (∀ id, ¬ Relation.TransGen (ImportsPath t.toLibrary root) id id) ∧
      ∀ reported, ofSource t.toLibrary {} root ≠ .error (.importCycle reported)) ∧
    ∃ (t : SourceTable) (root : Source) (reported : List SourcePath),
      reported = [⟨"main"⟩, ⟨"c"⟩, ⟨"c"⟩] ∧
      ofSource t.toLibrary {} root = .error (.importCycle reported) ∧
      ∃ sources, ImportChain t.toLibrary root sources ∧
        reported = (sources.map Source.id).reverse := by
  obtain ⟨-, hloaded, -, hacyclic⟩ := expansion_of_table (.ofList [("c", "record_str()")]) {}
    ⟨⟨"main"⟩, "@@import('c')\n@@import('./c')"⟩
  obtain ⟨-, -, hreported, -⟩ := expansion_of_table (.ofList [("c", "@@import('c')")]) {}
    ⟨⟨"main"⟩, "@@import('c')"⟩
  obtain ⟨sources, -, -, hsources, hids, -⟩ := hreported _ ofSource_cyclic
  exact ⟨⟨_, _, _, _, rfl, ofSource_twice, rfl, (hloaded _ ofSource_twice).1,
      hacyclic (isValid_of_ofSource ofSource_twice).acyclic⟩,
    _, _, _, rfl, ofSource_cyclic, sources, hsources, hids⟩

end RecordScript.Program
