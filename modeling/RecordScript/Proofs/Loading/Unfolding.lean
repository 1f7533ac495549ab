import Mathlib.Data.List.Nodup
import Mathlib.Data.List.Perm.Basic
import RecordScript.Proofs.Loading.Validity

/-!
# Unfolded programs

The steps of a program are the tree of its imports: in the place of every import stand all steps of
the imported source, however often the source is imported. So the expressions of the steps are those
of the sources that the imports lead to, once for each route.
-/

namespace RecordScript

open Result

variable [RegexEngine] {library : Library}

/-- The steps of a source with those of each imported source in the place of its import. -/
inductive Unfolds (library : Library) : Source → List Step → Prop
  | intro {source : Source} {file : SourceFile} {imported : Directive → Source}
      {steps : Directive → List Step} (read : Expansion.readSource source = .ok file)
      (imports : ∀ d ∈ StatementOf.blockDirectives file.statements,
        Expansion.importSource library source.id.parent? d = .ok (imported d))
      (unfolds : ∀ d ∈ StatementOf.blockDirectives file.statements,
        Unfolds library (imported d) (steps d)) :
    Unfolds library source (assembleBlock steps file.statements)

/-- The imports at the given places, each in the source that the one before it imports, lead from
one source to another. -/
inductive Route (library : Library) : List Nat → Source → Source → Prop
  | here {source : Source} : Route library [] source source
  | into {source : Source} {file : SourceFile} {k : Nat} {d : Directive} {imported target : Source}
      {places : List Nat} (read : Expansion.readSource source = .ok file)
      (directive : (StatementOf.blockDirectives file.statements)[k]? = some d)
      (imports : Expansion.importSource library source.id.parent? d = .ok imported)
      (route : Route library places imported target) :
    Route library (k :: places) source target

/-- The expressions of the text of a source, without those of its imports. -/
def Source.expressions (source : Source) : List Expr :=
  ((Expansion.readSource source).toOption.map fun file =>
    StatementOf.blockExpressions file.statements).getD []

theorem Source.expressions_of_read {source : Source} {file : SourceFile}
    (h : Expansion.readSource source = .ok file) :
    source.expressions = StatementOf.blockExpressions file.statements := by
  rw [Source.expressions, toOption_eq_some.mpr h, Option.map_some, Option.getD_some]

/-- The steps that a source gives unfold it. -/
theorem Expansion.unfolds_of_gives {depth : Nat} {source : Source} {file : SourceFile}
    {stack : ImportStack} {steps : List Step} (hread : readSource source = .ok file)
    (h : (expandBlock (splice library depth source.id.parent?) file.statements).Gives stack steps) :
    Unfolds library source steps := by
  induction depth generalizing source file stack steps with
  | zero =>
    obtain ⟨g, hg, rfl⟩ := (expandBlock_gives_iff (splice_balanced _ _)).mp h
    have hnone : ∀ d, d ∉ StatementOf.blockDirectives file.statements := by
      intro d hd
      cases hg d hd
    exact @Unfolds.intro _ library source file (fun _ => source) g hread
      (fun d hd => absurd hd (hnone d)) fun d hd => absurd hd (hnone d)
  | succ depth ih =>
    obtain ⟨g, hg, rfl⟩ := (expandBlock_gives_iff (splice_balanced _ _)).mp h
    have hd : ∀ d ∈ StatementOf.blockDirectives file.statements, ∃ imported,
        importSource library source.id.parent? d = .ok imported ∧ Unfolds library imported (g d) := by
      intro d hd
      obtain ⟨imported, importedFile, hsource, -, hread', hblock⟩ := splice_succ_gives.mp (hg d hd)
      exact ⟨imported, hsource, ih hread' hblock⟩
    have : Nonempty Source := ⟨source⟩
    choose! imported himported using hd
    exact .intro hread (fun d hd => (himported d hd).1) fun d hd => (himported d hd).2

/-! ### Routes -/

/-- All routes from a source, each once, with the sources that they lead to. -/
structure IsRouteList (library : Library) (source : Source) (routes : List (List Nat × Source)) :
    Prop where
  nodup : (routes.map Prod.fst).Nodup
  mem_iff : ∀ places target, (places, target) ∈ routes ↔ Route library places source target

/-- Routes behind an import at the given place. -/
def routesInto (k : Nat) (routes : List (List Nat × Source)) : List (List Nat × Source) :=
  routes.map fun r => (k :: r.1, r.2)

/-- The routes from a source: the empty one, and those into each of its imports. -/
def routesFrom (source : Source) (file : SourceFile)
    (routes : Directive → List (List Nat × Source)) : List (List Nat × Source) :=
  ([], source) :: (StatementOf.blockDirectives file.statements).zipIdx.flatMap fun x =>
    routesInto x.2 (routes x.1)

section Routes

variable {source : Source} {file : SourceFile} {imported : Directive → Source}
  {routes : Directive → List (List Nat × Source)}

theorem mem_routesFrom {places : List Nat} {target : Source} :
    (places, target) ∈ routesFrom source file routes ↔
      (places = [] ∧ target = source) ∨
      ∃ k d rest, (StatementOf.blockDirectives file.statements)[k]? = some d ∧
        (rest, target) ∈ routes d ∧ places = k :: rest := by
  simp only [routesFrom, routesInto, List.mem_cons, Prod.mk.injEq, List.mem_flatMap, List.mem_map,
    Prod.exists, List.mk_mem_zipIdx_iff_getElem?]
  grind

theorem nodup_routesFrom
    (h : ∀ d ∈ StatementOf.blockDirectives file.statements, ((routes d).map Prod.fst).Nodup) :
    ((routesFrom source file routes).map Prod.fst).Nodup := by
  have hmap : (routesFrom source file routes).map Prod.fst =
      [] :: (StatementOf.blockDirectives file.statements).zipIdx.flatMap fun x =>
        ((routes x.1).map Prod.fst).map (x.2 :: ·) := by
    simp [routesFrom, routesInto, List.map_flatMap, Function.comp_def]
  rw [hmap, List.nodup_cons, List.nodup_flatMap]
  refine ⟨by simp, ?_, ?_⟩
  · intro x hx
    refine (h x.1 ?_).map fun _ _ heq => (List.cons.inj heq).2
    exact List.mem_of_getElem? (List.mem_zipIdx_iff_getElem?.mp hx)
  · -- routes into imports at different places begin differently
    have hplaces : (StatementOf.blockDirectives file.statements).zipIdx.Pairwise
        fun x y => x.2 ≠ y.2 := by
      rw [← List.pairwise_map (f := Prod.snd) (R := (· ≠ ·)), List.zipIdx_map_snd]
      exact List.nodup_range' 1
    refine hplaces.imp fun {x y} hne places hx hy => ?_
    obtain ⟨_, -, rfl⟩ := List.mem_map.mp hx
    obtain ⟨_, -, heq⟩ := List.mem_map.mp hy
    exact hne (List.cons.inj heq).1.symm

theorem isRouteList_routesFrom (hread : Expansion.readSource source = .ok file)
    (himports : ∀ d ∈ StatementOf.blockDirectives file.statements,
      Expansion.importSource library source.id.parent? d = .ok (imported d))
    (hroutes : ∀ d ∈ StatementOf.blockDirectives file.statements,
      IsRouteList library (imported d) (routes d)) :
    IsRouteList library source (routesFrom source file routes) := by
  refine ⟨nodup_routesFrom fun d hd => (hroutes d hd).nodup, ?_⟩
  intro places target
  rw [mem_routesFrom]
  constructor
  · rintro (⟨rfl, rfl⟩ | ⟨k, d, rest, hd, hrest, rfl⟩)
    · exact .here
    · have hmem := List.mem_of_getElem? hd
      exact .into hread hd (himports d hmem) (((hroutes d hmem).mem_iff rest target).mp hrest)
  · intro hroute
    cases hroute with
    | here => exact .inl ⟨rfl, rfl⟩
    | @into _ file' k d imported' _ rest read directive imports route =>
      obtain rfl := Except.ok.inj (hread.symm.trans read)
      have hmem := List.mem_of_getElem? directive
      obtain rfl := Except.ok.inj ((himports d hmem).symm.trans imports)
      exact .inr ⟨k, d, rest, directive, ((hroutes d hmem).mem_iff rest target).mpr route, rfl⟩

end Routes

/-- The expressions of unfolded steps are those of the sources that the routes lead to, once for
each route. -/
theorem Unfolds.exists_isRouteList {source : Source} {steps : List Step}
    (h : Unfolds library source steps) :
    ∃ routes, IsRouteList library source routes ∧
      (Step.blockExpressions steps).Perm (routes.flatMap fun r => r.2.expressions) := by
  induction h with
  | @intro source file imported steps read imports unfolds ih =>
    choose! routes hroutes using ih
    refine ⟨routesFrom source file routes,
      isRouteList_routesFrom read imports fun d hd => (hroutes d hd).1, ?_⟩
    have hinto : ∀ k d, ((routesInto k (routes d)).flatMap fun r => r.2.expressions) =
        (routes d).flatMap fun r => r.2.expressions := by
      intro k d
      rw [routesInto, List.flatMap_map]
    have hplaces : ((StatementOf.blockDirectives file.statements).zipIdx.flatMap fun x =>
        (routes x.1).flatMap fun r => r.2.expressions) =
        (StatementOf.blockDirectives file.statements).flatMap fun d =>
          (routes d).flatMap fun r => r.2.expressions := by
      conv_rhs => rw [← List.zipIdx_map_fst 0 (StatementOf.blockDirectives file.statements)]
      rw [List.flatMap_map]
    rw [routesFrom, List.flatMap_cons, Source.expressions_of_read read, List.flatMap_assoc]
    simp only [hinto]
    rw [hplaces]
    have himported : ((StatementOf.blockDirectives file.statements).flatMap fun d =>
          Step.blockExpressions (steps d)).Perm
        ((StatementOf.blockDirectives file.statements).flatMap fun d =>
          (routes d).flatMap fun r => r.2.expressions) := by
      apply List.Perm.flatMap_left
      intro d hd
      exact (hroutes d hd).2
    exact (expressions_assembleBlock_perm file.statements).trans (himported.append_left _)

end RecordScript
