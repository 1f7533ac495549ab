import RecordScript.Proofs.Loading.Nesting

/-!
# Termination of expansion

The expansion of a program fails where the first of its directives does. The depth to which imports
may be nested never runs out: each nested import takes one more path of the library out of what is
left, so the expansion is that of a recursion without a depth, which ends by this measure.
-/

namespace RecordScript

open Result

namespace Expansion

variable {α β : Type}

/-- The error that a computation fails with from the given stack. -/
def failure? (x : Expansion α) (stack : ImportStack) : Option LoadError :=
  match (x stack).1 with
  | .ok _ => none
  | .error e => some e

theorem failure?_eq_some {x : Expansion α} {stack : ImportStack} {e : LoadError} :
    x.failure? stack = some e ↔ (x stack).1 = .error e := by
  rw [failure?]
  cases (x stack).1 <;> simp

@[simp]
theorem failure?_pure (a : α) (stack : ImportStack) :
    (pure a : Expansion α).failure? stack = none := rfl

/-- What follows a balanced computation fails from the same stack, if the computation does not. -/
theorem failure?_bind {x : Expansion α} {f : α → Expansion β} {stack : ImportStack}
    {next : Option LoadError} (hx : x.Balanced) (hf : ∀ a, (f a).failure? stack = next) :
    (x >>= f).failure? stack = (x.failure? stack).or next := by
  have hs := hx stack
  rw [failure?, failure?, bind_apply]
  rcases h : x stack with ⟨e | a, s⟩ <;> rw [h] at hs
  · rfl
  · obtain rfl : s = stack := hs
    exact hf a

section Statements

variable [RegexEngine] {splice : Directive → Expansion (List Step)} {stack : ImportStack}

theorem failure?_expandBlock_of_forall (hsplice : ∀ d, (splice d).Balanced) {ss : List Statement}
    (h : ∀ s ∈ ss, (expandStatement splice s).failure? stack =
      s.directives.findSome? fun d => (splice d).failure? stack) :
    (expandBlock splice ss).failure? stack =
      (StatementOf.blockDirectives ss).findSome? fun d => (splice d).failure? stack := by
  induction ss with
  | nil => rfl
  | cons s ss ih =>
    obtain ⟨hs, hss⟩ := List.forall_mem_cons.mp h
    rw [expandBlock, StatementOf.blockDirectives, List.findSome?_append, ← hs, ← ih hss]
    refine failure?_bind (expandStatement_balanced hsplice s) fun steps => ?_
    rw [failure?_bind (expandBlock_balanced hsplice ss) fun _ => failure?_pure _ _, Option.or_none]

theorem failure?_expandBranches_of_forall (hsplice : ∀ d, (splice d).Balanced)
    {branches : List Branch}
    (h : ∀ b ∈ branches, ∀ s ∈ b.body, (expandStatement splice s).failure? stack =
      s.directives.findSome? fun d => (splice d).failure? stack) :
    (expandBranches splice branches).failure? stack =
      (StatementOf.branchDirectives branches).findSome? fun d => (splice d).failure? stack := by
  induction branches with
  | nil => rfl
  | cons b branches ih =>
    obtain ⟨hb, hrest⟩ := List.forall_mem_cons.mp h
    obtain ⟨condition, body⟩ := b
    have hbody := failure?_expandBlock_of_forall hsplice hb
    simp only [BranchOf.body] at hbody
    rw [expandBranches, StatementOf.branchDirectives, List.findSome?_append, ← hbody, ← ih hrest]
    refine failure?_bind (expandBlock_balanced hsplice body) fun steps => ?_
    rw [failure?_bind (expandBranches_balanced hsplice branches) fun _ => failure?_pure _ _,
      Option.or_none]

/-- A statement fails where the first of its directives does. -/
theorem failure?_expandStatement (hsplice : ∀ d, (splice d).Balanced) (s : Statement) :
    (expandStatement splice s).failure? stack =
      s.directives.findSome? fun d => (splice d).failure? stack := by
  induction s using StatementOf.inductionOn with
  | assign pos field value => rfl
  | call pos function args => rfl
  | directive d => simp [expandStatement, StatementOf.directives]
  | rule branches otherwise ihb iho =>
    have hbranches := failure?_expandBranches_of_forall hsplice ihb
    cases otherwise with
    | none =>
      rw [expandStatement, StatementOf.directives, List.append_nil, ← hbranches,
        failure?_bind (expandBranches_balanced hsplice branches) fun _ => failure?_pure _ _,
        Option.or_none]
    | some body =>
      rw [expandStatement, StatementOf.directives, List.findSome?_append, ← hbranches]
      refine failure?_bind (expandBranches_balanced hsplice branches) fun arms => ?_
      rw [failure?_bind (expandBlock_balanced hsplice body) fun _ => failure?_pure _ _,
        failure?_expandBlock_of_forall hsplice (iho body rfl), Option.or_none]

/-- Statements fail where the first of their directives does. -/
theorem failure?_expandBlock (hsplice : ∀ d, (splice d).Balanced) (ss : List Statement) :
    (expandBlock splice ss).failure? stack =
      (StatementOf.blockDirectives ss).findSome? fun d => (splice d).failure? stack :=
  failure?_expandBlock_of_forall hsplice fun s _ => failure?_expandStatement hsplice s

/-- Statements give the same if their directives do. -/
theorem expandBlock_congr {splice' : Directive → Expansion (List Step)}
    (hsplice : ∀ d, (splice d).Balanced) (hsplice' : ∀ d, (splice' d).Balanced)
    (h : ∀ d, (splice d stack).1 = (splice' d stack).1) (ss : List Statement) :
    (expandBlock splice ss stack).1 = (expandBlock splice' ss stack).1 := by
  have hfailure : (expandBlock splice ss).failure? stack =
      (expandBlock splice' ss).failure? stack := by
    rw [failure?_expandBlock hsplice, failure?_expandBlock hsplice']
    simp only [failure?, h]
  cases hresult : (expandBlock splice ss stack).1 with
  | error e =>
    rw [failure?_eq_some.mpr hresult] at hfailure
    exact (failure?_eq_some.mp hfailure.symm).symm
  | ok steps =>
    have hgives : (expandBlock splice ss).Gives stack steps := hresult
    exact (hgives.expandBlock_mono hsplice hsplice' fun d out hd => (h d).symm.trans hd).symm

end Statements

end Expansion

/-! ### What is left of a library -/

namespace ImportStack

/-- How many paths of the library are not active. -/
def free (library : Library) (s : ImportStack) : Nat :=
  (library.ids.filter (!s.isActive ·)).length

theorem free_le (library : Library) (s : ImportStack) : s.free library ≤ library.ids.length :=
  List.length_filter_le _ _

theorem same_self (id : SourcePath) : id.same id = true := by simp [SourcePath.same]

/-- A path of the library that becomes active is not free any more. -/
theorem free_push_lt {library : Library} {s : ImportStack} {id : SourcePath}
    (hmem : id ∈ library.ids) (h : s.isActive id = false) :
    (s.push id).free library < s.free library := by
  have hfilter : library.ids.filter (!(s.push id).isActive ·) =
      (library.ids.filter (!s.isActive ·)).filter (!SourcePath.same · id) := by
    simp only [List.filter_filter, isActive_push, Bool.not_or]
  have hid : id ∈ library.ids.filter (!s.isActive ·) := by simp [hmem, h]
  rw [free, free, hfilter]
  exact List.length_filter_lt_length_iff_exists.mpr ⟨id, hid, by simp [same_self]⟩

end ImportStack

/-! ### Expansion without a depth -/

variable [RegexEngine]

namespace Expansion

/-- The steps that a directive imports, with no bound on how deep imports can be nested. -/
def spliceFreely (library : Library) (stack : ImportStack) (dir : Option SourcePath)
    (d : Directive) : Except LoadError (List Step) :=
  match _hsource : importSource library dir d with
  | .error e => .error e
  | .ok source =>
    if _hactive : stack.isActive source.id then
      .error (.importCycle (stack.chain ++ [source.id]))
    else do
      let file ← readSource source
      (expandBlock (fun d inner =>
        (spliceFreely library (stack.push source.id) source.id.parent? d, inner))
        file.statements (stack.push source.id)).1
termination_by stack.free library
decreasing_by
  obtain ⟨path, -, hresolve⟩ := importSource_eq_ok.mp _hsource
  exact ImportStack.free_push_lt (library.resolve_mem hresolve) (by simpa using _hactive)

/-- The steps of a program, with no bound on how deep imports can be nested. -/
def expandFreely (library : Library) (id : SourcePath) (statements : List Statement) :
    Except LoadError (List Step) :=
  (expandBlock (fun d stack => (spliceFreely library (.start id) id.parent? d, stack)) statements
    (.start id)).1

variable {library : Library}

/-- What an import gives, step by step. -/
theorem spliceFreely_eq (stack : ImportStack) (dir : Option SourcePath) (d : Directive) :
    spliceFreely library stack dir d =
      match importSource library dir d with
      | .error e => .error e
      | .ok source =>
        if stack.isActive source.id then .error (.importCycle (stack.chain ++ [source.id]))
        else
          match readSource source with
          | .error e => .error e
          | .ok file =>
            (expandBlock (fun d inner =>
              (spliceFreely library (stack.push source.id) source.id.parent? d, inner))
              file.statements (stack.push source.id)).1 := by
  rw [spliceFreely]
  split
  · rename_i e hsource
    simp only [hsource]
  · rename_i source hsource
    simp only [hsource, dite_eq_ite]
    cases readSource source <;> rfl

/-- A depth that exceeds the number of sources that are left does not run out. -/
theorem splice_eq_spliceFreely {depth : Nat} {stack : ImportStack} (dir : Option SourcePath)
    (d : Directive) (hdepth : stack.free library < depth) :
    (splice library depth dir d stack).1 = spliceFreely library stack dir d := by
  induction depth generalizing stack dir d with
  | zero => omega
  | succ depth ih =>
    rw [splice_succ_apply, spliceFreely_eq]
    cases hsource : importSource library dir d with
    | error e => rfl
    | ok source =>
      cases hactive : stack.isActive source.id with
      | true => simp [hactive]
      | false =>
        obtain ⟨path, -, hresolve⟩ := importSource_eq_ok.mp hsource
        -- one level of the depth is used up, and one path of what is left
        have hfree := ImportStack.free_push_lt (library.resolve_mem hresolve) hactive
        cases hread : readSource source with
        | error e => simp [hactive, hread]
        | ok file =>
          simp only [hactive, Bool.false_eq_true, if_false, hread, within_apply]
          exact expandBlock_congr (splice_balanced _ _) (fun _ _ => rfl)
            (fun d => ih _ d (by omega)) _

/-- The expansion of a program is that without a depth. -/
theorem expand_eq_expandFreely (library : Library) (id : SourcePath) (ss : List Statement) :
    expand library id ss = expandFreely library id ss := by
  have hfree := ImportStack.free_le library (.start id)
  exact expandBlock_congr (splice_balanced _ _) (fun _ _ => rfl)
    (fun d => splice_eq_spliceFreely _ d (by omega)) ss

end Expansion

end RecordScript
