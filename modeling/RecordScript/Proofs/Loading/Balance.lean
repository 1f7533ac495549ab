import RecordScript.Pattern.PlaceEngine
import RecordScript.Proofs.Loading.Recording
import RecordScript.Proofs.Loading.Termination
import RecordScript.Proofs.Source.Path
import RecordScript.Source.Table

/-!
# Balance of the stack of imports

The stack of imports holds the sources that are being expanded twice, in order and as a set. The two
agree whenever a part of the expansion is called, and every call leaves the stack as it has found
it, also if it fails, however deep among its calls the error has come up.
-/

namespace RecordScript

open Result

namespace ImportStack

/-- The sources on the stack are different, and the active ones are those on the stack. -/
structure IsConsistent (s : ImportStack) : Prop where
  distinct : s.chain.Pairwise fun a b => a.same b = false
  isActive_iff : ∀ id, s.isActive id = true ↔ ∃ other ∈ s.chain, id.same other = true

theorem isConsistent_start (id : SourcePath) : (start id).IsConsistent :=
  ⟨List.pairwise_singleton _ _, fun other => by simp [start, isActive]⟩

/-- A source that is not active can be put on the stack. -/
theorem IsConsistent.push {s : ImportStack} (h : s.IsConsistent) {id : SourcePath}
    (hid : s.isActive id = false) : (s.push id).IsConsistent := by
  have hother : ∀ other ∈ s.chain, id.same other = false := by
    intro other hmem
    rw [← Bool.not_eq_true] at hid ⊢
    exact fun hsame => hid ((h.isActive_iff id).mpr ⟨other, hmem, hsame⟩)
  constructor
  · rw [ImportStack.push, List.pairwise_append]
    refine ⟨h.distinct, List.pairwise_singleton _ _, fun other hmem last hlast => ?_⟩
    rw [List.mem_singleton.mp hlast, SourcePath.same_comm]
    exact hother other hmem
  · intro x
    rw [isActive_push, Bool.or_eq_true, h.isActive_iff]
    simp [ImportStack.push, or_and_right, exists_or, or_comm]

end ImportStack

variable [RegexEngine]

namespace Expansion

/-- The call was made from a consistent stack and left the stack as it was; unless it failed, the
steps that had been written are still there, in front. -/
structure Visit.IsOrderly (v : Visit) : Prop where
  consistent : v.before.stack.IsConsistent
  stack_eq : v.after.stack = v.before.stack
  kept : v.error? = none → v.before.out <+: v.after.out

/-- The second journal has the stack of the first, keeps what is written there, and adds orderly
calls. -/
structure Journal.Continues (j j' : Journal) : Prop where
  stack_eq : j'.stack = j.stack
  kept : j.out <+: j'.out
  visits : ∃ made, j'.visits = j.visits ++ made ∧ ∀ v ∈ made, v.IsOrderly

namespace Journal.Continues

variable {j j' j'' : Journal}

theorem refl (j : Journal) : j.Continues j := ⟨rfl, List.prefix_rfl, [], by simp, by simp⟩

theorem trans (h : j.Continues j') (h' : j'.Continues j'') : j.Continues j'' := by
  obtain ⟨made, hmade, horderly⟩ := h.visits
  obtain ⟨made', hmade', horderly'⟩ := h'.visits
  refine ⟨h'.stack_eq.trans h.stack_eq, h.kept.trans h'.kept, made ++ made', ?_, ?_⟩
  · rw [hmade', hmade, List.append_assoc]
  · exact List.forall_mem_append.mpr ⟨horderly, horderly'⟩

end Journal.Continues

namespace Recording

variable {α β : Type}

/-- From a consistent stack, the computation leaves a journal that continues the one it found. -/
def IsOrderly (x : Recording α) : Prop :=
  ∀ j : Journal, j.stack.IsConsistent → j.Continues (x j).2

theorem isOrderly_pure (a : α) : IsOrderly (pure a) := fun j _ => .refl j

theorem isOrderly_throw (e : LoadError) : IsOrderly (throw e : Recording α) := fun j _ => .refl j

theorem isOrderly_emit (step : Step) : IsOrderly (emit step) :=
  fun _ _ => ⟨rfl, List.prefix_append _ _, [], by simp [emit], by simp⟩

theorem IsOrderly.bind {x : Recording α} {f : α → Recording β} (hx : x.IsOrderly)
    (hf : ∀ a, (f a).IsOrderly) : IsOrderly (x >>= f) := by
  intro j hj
  have hfirst := hx j hj
  rw [bind_apply]
  rcases h : x j with ⟨e | a, j'⟩ <;> rw [h] at hfirst
  · exact hfirst
  · have hj' : j'.stack.IsConsistent := hfirst.stack_eq ▸ hj
    exact hfirst.trans (hf a j' hj')

theorem IsOrderly.collect {x : Recording Unit} (h : x.IsOrderly) : (collect x).IsOrderly := by
  intro j hj
  obtain ⟨hstack, -, hvisits⟩ := h { j with out := [] } hj
  exact ⟨hstack, List.prefix_rfl, hvisits⟩

/-- A call stands behind those that it has made. -/
theorem IsOrderly.visits_noted {x : Recording α} (h : x.IsOrderly) (part : Part) {j : Journal}
    (hj : j.stack.IsConsistent) :
    ∃ made call, (noted part x j).2.visits = j.visits ++ (made ++ [call]) ∧
      call = ⟨part, j.toProgress, (noted part x j).2.toProgress, errorOf? (noted part x j).1⟩ ∧
      ∀ v ∈ made ++ [call], v.IsOrderly := by
  obtain ⟨hstack, hkept, made, hmade, horderly⟩ := h j hj
  refine ⟨made, _, ?_, rfl, ?_⟩
  · rw [← List.append_assoc, ← hmade]
    rfl
  · exact List.forall_mem_append.mpr
      ⟨horderly, List.forall_mem_singleton.mpr ⟨hj, hstack, fun _ => hkept⟩⟩

theorem IsOrderly.noted {x : Recording α} (h : x.IsOrderly) (part : Part) :
    (noted part x).IsOrderly := by
  intro j hj
  obtain ⟨hstack, hkept, -⟩ := h j hj
  obtain ⟨made, call, hmade, -, horderly⟩ := h.visits_noted part hj
  exact ⟨hstack, hkept, _, hmade, horderly⟩

/-- The computation consists of an orderly one, which is noted as a call of the part. -/
def IsCall (x : Recording α) (part : Part) : Prop :=
  ∃ body : Recording α, body.IsOrderly ∧ x = noted part body

theorem IsCall.isOrderly {part : Part} {x : Recording α} (h : x.IsCall part) : x.IsOrderly := by
  obtain ⟨body, hbody, rfl⟩ := h
  exact hbody.noted part

/-- A source that is not active is taken from the stack again. -/
theorem IsOrderly.within {x : Recording α} (h : x.IsOrderly) {id : SourcePath} {j : Journal}
    (hj : j.stack.IsConsistent) (hid : j.stack.isActive id = false) :
    j.Continues (within id x j).2 := by
  obtain ⟨hstack, hkept, hvisits⟩ := h { j with stack := j.stack.push id } (hj.push hid)
  refine ⟨?_, hkept, hvisits⟩
  -- `x` hands back the stack that it was given, with the source on top
  change (x _).2.stack.pop id = _
  rw [hstack, ImportStack.pop_push hid]

theorem IsOrderly.notedBlock {x : Recording Unit} (h : x.IsOrderly) (dir : Option SourcePath)
    (ss : List Statement) : (notedBlock dir ss x).IsOrderly :=
  ((h.noted _).collect).noted _

section Statements

variable {dir : Option SourcePath} {directive : Directive → Recording Unit}

theorem writeStatements_isOrderly_of_forall {ss : List Statement}
    (h : ∀ s ∈ ss, (writeStatement dir directive s).IsOrderly) :
    (writeStatements dir directive ss).IsOrderly := by
  induction ss with
  | nil => exact isOrderly_pure _
  | cons s ss ih =>
    obtain ⟨hs, hss⟩ := List.forall_mem_cons.mp h
    rw [writeStatements]
    exact hs.bind fun _ => ih hss

theorem makeArms_isOrderly_of_forall {branches : List Branch}
    (h : ∀ b ∈ branches, ∀ s ∈ b.body, (writeStatement dir directive s).IsOrderly) :
    (makeArms dir directive branches).IsOrderly := by
  induction branches with
  | nil => exact isOrderly_pure _
  | cons b branches ih =>
    obtain ⟨hb, hbranches⟩ := List.forall_mem_cons.mp h
    obtain ⟨condition, body⟩ := b
    rw [makeArms]
    exact ((writeStatements_isOrderly_of_forall hb).notedBlock dir body).bind fun _ =>
      (ih hbranches).bind fun _ => isOrderly_pure _

theorem writeStatement_isOrderly (h : ∀ d, (directive d).IsOrderly) (s : Statement) :
    (writeStatement dir directive s).IsOrderly := by
  induction s using StatementOf.inductionOn with
  | assign pos field value => exact isOrderly_emit _
  | call pos function args => exact isOrderly_emit _
  | directive d => exact h d
  | rule branches otherwise ihb iho =>
    rw [writeStatement]
    refine (makeArms_isOrderly_of_forall ihb).bind fun arms => ?_
    cases otherwise with
    | none => exact isOrderly_emit _
    | some body =>
      exact ((writeStatements_isOrderly_of_forall (iho body rfl)).notedBlock dir body).bind
        fun steps => isOrderly_emit _

/-- Statements are expanded in an orderly way if their directives are. -/
theorem writeStatements_isOrderly (h : ∀ d, (directive d).IsOrderly) (ss : List Statement) :
    (writeStatements dir directive ss).IsOrderly :=
  writeStatements_isOrderly_of_forall fun s _ => writeStatement_isOrderly h s

end Statements

section Calls

variable {resolve : Resolver}

theorem writeStatements_isCall {directive : Directive → Recording Unit}
    (h : ∀ d, (directive d).IsOrderly) (dir : Option SourcePath) (ss : List Statement) :
    (noted (.statements dir ss) (writeStatements dir directive ss)).IsCall (.statements dir ss) :=
  ⟨_, writeStatements_isOrderly h ss, rfl⟩

/-- An import is orderly if the directives of its source are. -/
theorem importWith_isCall {directive : Option SourcePath → Directive → Recording Unit}
    (h : ∀ dir d, (directive dir d).IsOrderly) (dir : Option SourcePath) (path : String)
    (pos : Position) :
    (importWith resolve directive dir path pos).IsCall (.importing dir path pos) := by
  refine ⟨_, fun j hj => ?_, rfl⟩
  cases resolve path dir with
  | error problem => exact .refl j
  | ok source =>
    dsimp only
    cases hactive : j.stack.isActive source.id with
    | true => exact .refl j
    | false =>
      -- only here does the stack grow, by a source that is not on it yet
      simp only [Bool.false_eq_true, if_false]
      cases readSource source with
      | error e => exact .refl j
      | ok file =>
        exact (writeStatements_isCall (h _) _ file.statements).isOrderly.within hj hactive

/-- A directive is orderly, however deep the imports below it are nested. -/
theorem directive_isCall (depth : Nat) (dir : Option SourcePath) (d : Directive) :
    (directive resolve depth dir d).IsCall (.directive dir d) := by
  induction depth generalizing dir d with
  | zero => exact ⟨_, fun j _ => .refl j, rfl⟩
  | succ depth ih =>
    rw [directive]
    refine ⟨_, ?_, rfl⟩
    cases importPath d with
    | error fault => exact isOrderly_throw _
    | ok path => exact (importWith_isCall (fun dir d => (ih dir d).isOrderly) dir path _).isOrderly

theorem statements_isCall (depth : Nat) (dir : Option SourcePath) (ss : List Statement) :
    (statements resolve depth dir ss).IsCall (.statements dir ss) :=
  writeStatements_isCall (fun d => (directive_isCall depth dir d).isOrderly) dir ss

theorem block_isCall (depth : Nat) (dir : Option SourcePath) (ss : List Statement) :
    (block resolve depth dir ss).IsCall (.block dir ss) :=
  ⟨_, (statements_isCall depth dir ss).isOrderly.collect, rfl⟩

theorem importing_isCall (depth : Nat) (dir : Option SourcePath) (path : String) (pos : Position) :
    (importing resolve depth dir path pos).IsCall (.importing dir path pos) :=
  importWith_isCall (fun dir d => (directive_isCall depth dir d).isOrderly) dir path pos

end Calls

/-! ### What a call leaves -/

/-- A call stands behind those that it has made. -/
theorem IsCall.leaves {x : Recording α} {part : Part} (h : x.IsCall part) {j : Journal}
    (hj : j.stack.IsConsistent) :
    (x.outcome j).2.stack = j.stack ∧
      ∃ made call, (x.outcome j).2.visits = j.visits ++ (made ++ [call]) ∧
        call = ⟨part, j.toProgress, (x.outcome j).2.toProgress, (x.outcome j).1⟩ ∧
        ∀ v ∈ made ++ [call], v.IsOrderly := by
  refine ⟨(h.isOrderly j hj).stack_eq, ?_⟩
  obtain ⟨body, hbody, rfl⟩ := h
  exact hbody.visits_noted part hj

theorem Makes.outcome_eq {x : Recording α} {y : Expansion α} (h : x.Makes y) (j : Journal) :
    (x.outcome j).1 = y.failure? j.stack := by
  obtain ⟨visits, hj⟩ := h j
  rw [outcome, hj, failure?]
  cases (y j.stack).1 <;> rfl

theorem Writes.outcome_eq {x : Recording Unit} {y : Expansion (List Step)} (h : x.Writes y)
    (j : Journal) : (x.outcome j).1 = y.failure? j.stack := by
  obtain ⟨out, visits, hj, -⟩ := h j
  rw [outcome, hj, failure?]
  cases (y j.stack).1 <;> rfl

end Recording

namespace Part

/-- Whatever is called from a consistent stack leaves it as it was, and makes only orderly calls. -/
theorem run_leaves (resolve : Resolver) (depth : Nat) (part : Part) {j : Journal}
    (hj : j.stack.IsConsistent) :
    (part.run resolve depth j).2.stack = j.stack ∧
      ∃ made call, (part.run resolve depth j).2.visits = j.visits ++ (made ++ [call]) ∧
        call = ⟨part, j.toProgress, (part.run resolve depth j).2.toProgress,
          (part.run resolve depth j).1⟩ ∧
        ∀ v ∈ made ++ [call], v.IsOrderly := by
  cases part with
  | statements dir ss => exact (Recording.statements_isCall depth dir ss).leaves hj
  | block dir ss => exact (Recording.block_isCall depth dir ss).leaves hj
  | directive dir d => exact (Recording.directive_isCall depth dir d).leaves hj
  | importing dir path pos => exact (Recording.importing_isCall depth dir path pos).leaves hj

/-- A call fails with the error of the expansion that it records. -/
theorem run_eq_failure? (library : Library) (depth : Nat) (part : Part) (j : Journal) :
    (part.run library.resolve depth j).1 = (part.expansion library depth).failure? j.stack := by
  cases part with
  | statements dir ss => exact (Recording.statements_writes depth dir ss).outcome_eq j
  | block dir ss => exact (Recording.block_makes depth dir ss).outcome_eq j
  | directive dir d => exact (Recording.directive_writes depth dir d).outcome_eq j
  | importing dir path pos => exact (Recording.importing_writes depth dir path pos).outcome_eq j

theorem expansion_balanced (library : Library) (depth : Nat) (part : Part) :
    (part.expansion library depth).Balanced := by
  cases part with
  | statements dir ss => exact expandBlock_balanced (splice_balanced depth dir) ss
  | block dir ss => exact expandBlock_balanced (splice_balanced depth dir) ss
  | directive dir d => exact splice_balanced depth dir d
  | importing dir path pos => exact splice_balanced (depth + 1) dir _

/-- The stack of imports is balanced. The expansion of a program starts from a consistent stack.
Whatever part of an expansion is called from a consistent stack, it leaves the stack as it has found
it, and so does every call that is made below it, whether it succeeds or fails; all these calls are
made from consistent stacks, and those that succeed keep the steps that have been written before, in
front. With a library, the calls are those of the expansion of programs: they leave the stack as it
does, fail with its errors, and write or make its steps, and a depth that exceeds the number of
sources is as good as none. -/
theorem run_leaves_stack (depth : Nat) :
    (∀ id, (ImportStack.start id).IsConsistent) ∧
    (∀ (resolve : Resolver) (part : Part) (j : Journal), j.stack.IsConsistent →
      (part.run resolve depth j).2.stack = j.stack ∧
      ∃ made call, (part.run resolve depth j).2.visits = j.visits ++ (made ++ [call]) ∧
        call = ⟨part, j.toProgress, (part.run resolve depth j).2.toProgress,
          (part.run resolve depth j).1⟩ ∧
        ∀ v ∈ made ++ [call], v.IsOrderly) ∧
    ∀ library : Library,
      (∀ (part : Part) (j : Journal), (part.expansion library depth j.stack).2 = j.stack ∧
        (part.run library.resolve depth j).1 = (part.expansion library depth).failure? j.stack) ∧
      (∀ dir ss, (Recording.statements library.resolve depth dir ss).Writes
        (expandBlock (splice library depth dir) ss)) ∧
      (∀ dir ss, (Recording.block library.resolve depth dir ss).Makes
        (expandBlock (splice library depth dir) ss)) ∧
      (∀ dir d, (Recording.directive library.resolve depth dir d).Writes
        (splice library depth dir d)) ∧
      (∀ dir path pos, (Recording.importing library.resolve depth dir path pos).Writes
        ((importing dir path pos).expansion library depth)) ∧
      (library.ids.length < depth →
        (∀ dir d stack, (splice library depth dir d stack).1 = spliceFreely library stack dir d) ∧
        ∀ id ss, expand library id ss =
          (expandBlock (splice library depth id.parent?) ss (.start id)).1) := by
  refine ⟨ImportStack.isConsistent_start, fun resolve part j => run_leaves resolve depth part,
    fun library => ⟨fun part j => ⟨part.expansion_balanced library depth j.stack,
        part.run_eq_failure? library depth j⟩,
      Recording.statements_writes depth, Recording.block_makes depth,
      Recording.directive_writes depth, Recording.importing_writes depth, fun hdepth => ?_⟩⟩
  have hfreely : ∀ dir d stack,
      (splice library depth dir d stack).1 = spliceFreely library stack dir d := by
    intro dir d stack
    exact splice_eq_spliceFreely dir d (lt_of_le_of_lt (stack.free_le library) hdepth)
  refine ⟨hfreely, fun id ss => ?_⟩
  rw [expand_eq_expandFreely]
  exact expandBlock_congr (fun _ _ => rfl) (splice_balanced depth _)
    (fun d => (hfreely id.parent? d _).symm) ss

end Part

end Expansion

end RecordScript

namespace RecordScript.Expansion.Circle

/-- A library of two programs that import each other. -/
def library : Library :=
  (SourceTable.ofList [("c", "@@import('d')"), ("d", "@@import('c')")]).toLibrary

/-- A program that has written a step. -/
def start : Journal := ⟨⟨.start ⟨"main"⟩, [.call ⟨"main", 1, 1⟩ "record_str" []]⟩, []⟩

/-- A directive that imports the first program of the library. -/
def importing : Directive :=
  ⟨"import", [.literal ⟨"main", 2, 10⟩ (.string "c")], true, ⟨"main", 2, 1⟩⟩

/-- The innermost call, which is the first one to end, finds the cycle. -/
theorem head?_visits_run :
    ((Part.directive none importing).run library.resolve 3 start).2.visits.head?.map
        (fun v => (v.before.stack.chain, v.error?)) =
      some ([⟨"main"⟩, ⟨"c"⟩, ⟨"d"⟩],
        some (.importCycle [⟨"main"⟩, ⟨"c"⟩, ⟨"d"⟩, ⟨"c"⟩])) := by
  decide +kernel

/-- A cycle that is found two imports further on leaves the stack as it was, there and here. -/
theorem run_leaves_stack_circle :
    ((Part.directive none importing).run library.resolve 3 start).2.stack = .start ⟨"main"⟩ ∧
    (∃ v ∈ ((Part.directive none importing).run library.resolve 3 start).2.visits,
      v.before.stack.chain = [⟨"main"⟩, ⟨"c"⟩, ⟨"d"⟩] ∧
      v.error? = some (.importCycle [⟨"main"⟩, ⟨"c"⟩, ⟨"d"⟩, ⟨"c"⟩]) ∧
      v.before.stack.IsConsistent ∧ v.after.stack = v.before.stack) ∧
    expand library ⟨"main"⟩ [.directive importing] =
      (expandBlock (splice library 3 none) [.directive importing] (.start ⟨"main"⟩)).1 := by
  obtain ⟨hstart, hrun, hlibrary⟩ := Part.run_leaves_stack 3
  obtain ⟨-, -, -, -, -, hdepth⟩ := hlibrary library
  obtain ⟨hstack, made, call, hvisits, -, horderly⟩ :=
    hrun library.resolve (.directive none importing) start (hstart ⟨"main"⟩)
  refine ⟨hstack, ?_, (hdepth (by decide)).2 ⟨"main"⟩ _⟩
  obtain ⟨v, hhead, hfound⟩ := Option.map_eq_some_iff.mp head?_visits_run
  obtain ⟨hchain, herror⟩ := Prod.mk.inj hfound
  have hmem := List.mem_of_head? hhead
  have hmade : v ∈ made ++ [call] := by rwa [hvisits] at hmem
  exact ⟨v, hmem, hchain, herror, (horderly v hmade).consistent, (horderly v hmade).stack_eq⟩

end RecordScript.Expansion.Circle
