import RecordScript.Proofs.Loading.Relocated
import RecordScript.Proofs.Loading.Termination

/-!
# Loading with any resolver

A resolver may answer with a new source for every path, so that no depth of nesting is enough for
all programs. A program is loaded if some depth is enough for it: a larger one then gives the same
program. With a library this is what loading does, since the number of its sources is such a depth.
-/

namespace RecordScript

open Result

variable [RegexEngine]

namespace Expansion

variable {resolve : Resolver} {id : SourcePath}

/-- The statements of a program stand for the steps, with all that they import. -/
def Expands (resolve : Resolver) (id : SourcePath) (ss : List Statement) (out : List Step) : Prop :=
  ∃ depth, expandWithin resolve depth id ss = .ok out

theorem expandWithin_eq_ok {depth : Nat} {ss : List Statement} {out : List Step} :
    expandWithin resolve depth id ss = .ok out ↔
      (expandBlock (splice resolve depth id.parent?) ss).Gives (.start id) out :=
  Iff.rfl

theorem expand_eq_ok {library : Library} {ss : List Statement} {out : List Step} :
    expand library id ss = .ok out ↔
      (expandBlock (splice library (library.ids.length + 2) id.parent?) ss).Gives (.start id) out :=
  Iff.rfl

/-- Statements give the same steps where imports may be nested deeper. -/
theorem expandWithin_of_le {depth depth' : Nat} {ss : List Statement} {out : List Step}
    (h : expandWithin resolve depth id ss = .ok out) (hdepth : depth ≤ depth') :
    expandWithin resolve depth' id ss = .ok out := by
  rw [expandWithin_eq_ok] at h ⊢
  exact h.expandBlock_of_le hdepth

/-- Statements behind each other stand for their steps behind each other. -/
theorem expands_append {ss ts : List Statement} {out : List Step} :
    Expands resolve id (ss ++ ts) out ↔
      ∃ first others, Expands resolve id ss first ∧ Expands resolve id ts others ∧
        first ++ others = out := by
  constructor
  · rintro ⟨depth, h⟩
    rw [expandWithin_eq_ok, expandBlock_append_gives (splice_balanced _ _)] at h
    obtain ⟨first, others, hfirst, hothers, heq⟩ := h
    exact ⟨first, others, ⟨depth, hfirst⟩, ⟨depth, hothers⟩, heq⟩
  · rintro ⟨first, others, ⟨depth, hfirst⟩, ⟨depth', hothers⟩, heq⟩
    refine ⟨max depth depth', ?_⟩
    rw [expandWithin_eq_ok, expandBlock_append_gives (splice_balanced _ _)]
    exact ⟨first, others, expandWithin_of_le hfirst (le_max_left _ _),
      expandWithin_of_le hothers (le_max_right _ _), heq⟩

/-- Statements that are equal up to positions stand for steps that are equal up to positions. -/
theorem Expands.exists_of_unplaced_eq {ss ss' : List Statement} {out : List Step}
    (h : Expands resolve id ss out) (hss : unplacedBlock ss = unplacedBlock ss') :
    ∃ out', Expands resolve id ss' out' ∧ unplacedSteps out = unplacedSteps out' := by
  obtain ⟨depth, hout⟩ := h
  obtain ⟨out', hout', heq⟩ := exists_expandBlock_gives_of_unplaced_eq hss hout
  exact ⟨out', ⟨depth, hout'⟩, heq⟩

/-- With a library the number of its sources is a depth that is enough. -/
theorem expands_iff_expand {library : Library} {ss : List Statement} {out : List Step} :
    Expands library id ss out ↔ expand library id ss = .ok out := by
  constructor
  · rintro ⟨depth, hout⟩
    have hfree := ImportStack.free_le library (.start id)
    have hmax := expandWithin_of_le hout (le_max_left depth (library.ids.length + 1))
    have hfreely : expandWithin library (max depth (library.ids.length + 1)) id ss =
        expandFreely library id ss :=
      expandBlock_congr (splice_balanced _ _) (fun _ _ => rfl)
        (fun d => splice_eq_spliceFreely _ d (by omega)) ss
    rw [expand_eq_expandFreely, ← hfreely, hmax]
  · exact fun h => ⟨_, h⟩

end Expansion

namespace Program

variable {resolve : Resolver} {options : LoadOptions} {root : Source} {p q : Program}

/-- The source is loaded as the program: some depth is enough for its imports. -/
def Loads (resolve : Resolver) (options : LoadOptions) (root : Source) (p : Program) : Prop :=
  ∃ depth, ofSourceWithin resolve depth options root = .ok p

theorem loads_iff :
    Loads resolve options root p ↔ ∃ file steps,
      Expansion.readSource root = .ok file ∧ Config.ofHeader options file.header = .ok p.config ∧
      Expansion.Expands resolve root.id file.statements steps ∧
      prepareSteps p.config steps = .ok p.steps := by
  simp only [Loads, ofSourceWithin, ofSourceWith_eq_ok, Expansion.Expands]
  grind

/-- What is loaded with one depth is loaded with every larger one. -/
theorem ofSourceWithin_of_le {depth depth' : Nat}
    (h : ofSourceWithin resolve depth options root = .ok p) (hdepth : depth ≤ depth') :
    ofSourceWithin resolve depth' options root = .ok p := by
  rw [ofSourceWithin, ofSourceWith_eq_ok] at h ⊢
  obtain ⟨file, steps, hread, hconfig, hsteps, hprepare⟩ := h
  exact ⟨file, steps, hread, hconfig, Expansion.expandWithin_of_le hsteps hdepth, hprepare⟩

/-- A source is loaded as one program only. -/
theorem Loads.unique (hp : Loads resolve options root p) (hq : Loads resolve options root q) :
    p = q := by
  obtain ⟨depth, hp⟩ := hp
  obtain ⟨depth', hq⟩ := hq
  have hmax := ofSourceWithin_of_le hp (le_max_left depth depth')
  exact Except.ok.inj (hmax.symm.trans (ofSourceWithin_of_le hq (le_max_right depth depth')))

/-- With a library a source is loaded as what loading gives. -/
theorem loads_iff_ofSource {library : Library} :
    Loads library options root p ↔ ofSource library options root = .ok p := by
  simp only [loads_iff, ofSource_eq_ok, Expansion.expands_iff_expand]

/-- Sources with the same header are loaded alike if their statements are, up to positions,
statements that stand for the same steps. -/
theorem Loads.exists_of_unplaced_eq {root' : Source} {f f' : SourceFile} {ss ss' : List Statement}
    (h : Loads resolve options root p) (hread : Expansion.readSource root = .ok f)
    (hread' : Expansion.readSource root' = .ok f')
    (hheader : f.header.map DirectiveOf.unplaced = f'.header.map DirectiveOf.unplaced)
    (hss : unplacedBlock f.statements = unplacedBlock ss)
    (hss' : unplacedBlock f'.statements = unplacedBlock ss')
    (hexpands : ∀ out, Expansion.Expands resolve root.id ss out →
      Expansion.Expands resolve root'.id ss' out) :
    ∃ q, Loads resolve options root' q ∧ p.config = q.config ∧
      unplacedSteps p.steps = unplacedSteps q.steps := by
  obtain ⟨_, steps, hfile, hconfig, hsteps, hprepare⟩ := loads_iff.mp h
  obtain rfl := Except.ok.inj (hread.symm.trans hfile)
  obtain ⟨middle, hmiddle, heq⟩ := hsteps.exists_of_unplaced_eq hss
  obtain ⟨steps', hsteps', heq'⟩ := (hexpands middle hmiddle).exists_of_unplaced_eq hss'.symm
  have hview := heq.trans heq'
  simp only [funext DirectiveOf.unplaced_eq_relocated, unplacedSteps_eq_relocatedSteps] at *
  obtain ⟨q, hconfig', hprepare', hsame⟩ :=
    exists_built_of_relocated_eq hheader hview hconfig hprepare
  exact ⟨q, loads_iff.mpr ⟨f', steps', hread', hconfig', hsteps', hprepare'⟩, hsame⟩

end Program

end RecordScript
