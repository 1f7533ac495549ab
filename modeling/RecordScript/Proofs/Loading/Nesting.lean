import Mathlib.Data.Nat.Find
import RecordScript.Proofs.Loading.Validity

/-!
# Nested imports

What an import gives depends neither on how deep imports may be nested nor on what else is being
expanded: a directive that gives steps gives the same steps from a smaller stack, with a larger
depth, and inside a program that its imports do not come back to.
-/

namespace RecordScript

variable [RegexEngine]

namespace Resolver

/-- Whatever the resolver has under the path of the source is the source. -/
def Determines (resolve : Resolver) (z : Source) : Prop :=
  ∀ path dir source, resolve path dir = .ok source → source.id.same z.id = true → source = z

/-- The resolver has a source with the path. -/
def HasId (resolve : Resolver) (id : SourcePath) : Prop :=
  ∃ path dir source, resolve path dir = .ok source ∧ source.id = id

end Resolver

namespace Expansion

variable {resolve : Resolver}

/-- A directive gives the same from a stack on which less of the library is active. -/
theorem Gives.splice_of_subset {depth : Nat} {dir : Option SourcePath} {d : Directive}
    {stack stack' : ImportStack} {out : List Step}
    (h : (splice resolve depth dir d).Gives stack out)
    (hstack : ∀ id, resolve.HasId id → stack'.isActive id = true → stack.isActive id = true) :
    (splice resolve depth dir d).Gives stack' out := by
  induction depth generalizing dir d stack stack' out with
  | zero => cases h
  | succ depth ih =>
    obtain ⟨source, file, hsource, hactive, hread, hblock⟩ := splice_succ_gives.mp h
    have hactive' : stack'.isActive source.id = false := by
      obtain ⟨path, -, hresolve⟩ := importSource_eq_ok.mp hsource
      rw [← Bool.not_eq_true] at hactive ⊢
      exact mt (hstack source.id ⟨path, dir, source, hresolve, rfl⟩) hactive
    refine splice_succ_gives.mpr ⟨source, file, hsource, hactive', hread, ?_⟩
    refine hblock.expandBlock_mono (splice_balanced _ _) (splice_balanced _ _) fun d out hd => ?_
    refine ih hd fun id hhas hid => ?_
    rw [ImportStack.isActive_push, Bool.or_eq_true] at hid ⊢
    exact hid.imp_right (hstack id hhas)

/-- A directive gives the same where imports may be nested deeper. -/
theorem Gives.splice_of_le {depth depth' : Nat} {dir : Option SourcePath} {d : Directive}
    {stack : ImportStack} {out : List Step} (h : (splice resolve depth dir d).Gives stack out)
    (hdepth : depth ≤ depth') : (splice resolve depth' dir d).Gives stack out := by
  induction depth generalizing dir d stack out depth' with
  | zero => cases h
  | succ depth ih =>
    obtain ⟨depth', rfl⟩ := Nat.exists_eq_succ_of_ne_zero (Nat.ne_zero_of_lt hdepth)
    obtain ⟨source, file, hsource, hactive, hread, hblock⟩ := splice_succ_gives.mp h
    refine splice_succ_gives.mpr ⟨source, file, hsource, hactive, hread, ?_⟩
    refine hblock.expandBlock_mono (splice_balanced _ _) (splice_balanced _ _) fun d out hd => ?_
    exact ih hd (Nat.le_of_succ_le_succ hdepth)

theorem Gives.expandBlock_of_subset {depth : Nat} {dir : Option SourcePath} {ss : List Statement}
    {stack stack' : ImportStack} {out : List Step}
    (h : (expandBlock (splice resolve depth dir) ss).Gives stack out)
    (hstack : ∀ id, resolve.HasId id → stack'.isActive id = true → stack.isActive id = true) :
    (expandBlock (splice resolve depth dir) ss).Gives stack' out :=
  h.expandBlock_mono (splice_balanced _ _) (splice_balanced _ _) fun _ _ hd =>
    hd.splice_of_subset hstack

theorem Gives.expandBlock_of_le {depth depth' : Nat} {dir : Option SourcePath}
    {ss : List Statement} {stack : ImportStack} {out : List Step}
    (h : (expandBlock (splice resolve depth dir) ss).Gives stack out) (hdepth : depth ≤ depth') :
    (expandBlock (splice resolve depth' dir) ss).Gives stack out :=
  h.expandBlock_mono (splice_balanced _ _) (splice_balanced _ _) fun _ _ hd =>
    hd.splice_of_le hdepth

section Included

variable {z : Source} {file : SourceFile}

/-- If the statements of a source give nothing with a smaller depth, a directive among them cannot
come back to the source, so that it gives the same while the source is being expanded. -/
theorem Gives.splice_of_minimal (hread : readSource z = .ok file)
    (honly : resolve.Determines z)
    {base : ImportStack} {depth : Nat}
    (hminimal : ∀ n < depth, ∀ out,
      ¬ (expandBlock (splice resolve n z.id.parent?) file.statements).Gives base out)
    {dir : Option SourcePath} {d : Directive} {stack stack' : ImportStack} {out : List Step}
    (h : (splice resolve depth dir d).Gives stack out)
    (hbase : ∀ id, base.isActive id = true → stack.isActive id = true)
    (hstack : ∀ id, stack'.isActive id = true → stack.isActive id = true ∨ id.same z.id = true) :
    (splice resolve depth dir d).Gives stack' out := by
  induction depth generalizing dir d stack stack' out with
  | zero => cases h
  | succ depth ih =>
    obtain ⟨source, sourceFile, hsource, hactive, hsourceFile, hblock⟩ := splice_succ_gives.mp h
    have hpush : ∀ id, base.isActive id = true → (stack.push source.id).isActive id = true := by
      intro id hid
      rw [ImportStack.isActive_push, hbase id hid, Bool.or_true]
    have hother : source.id.same z.id = false := by
      rw [← Bool.not_eq_true]
      intro hsame
      obtain ⟨path, -, hresolve⟩ := importSource_eq_ok.mp hsource
      obtain rfl := honly path dir source hresolve hsame
      obtain rfl := Except.ok.inj (hread.symm.trans hsourceFile)
      exact hminimal depth (Nat.lt_succ_self depth) out
        (hblock.expandBlock_of_subset fun id _ => hpush id)
    have hactive' : stack'.isActive source.id = false := by
      rw [← Bool.not_eq_true]
      intro hid
      rcases hstack source.id hid with hid | hid
      · rw [hactive] at hid
        cases hid
      · rw [hother] at hid
        cases hid
    refine splice_succ_gives.mpr ⟨source, sourceFile, hsource, hactive', hsourceFile, ?_⟩
    refine hblock.expandBlock_mono (splice_balanced _ _) (splice_balanced _ _) fun d out hd => ?_
    refine ih (fun n hn => hminimal n (Nat.lt_succ_of_lt hn)) hd hpush fun id hid => ?_
    rw [ImportStack.isActive_push, Bool.or_eq_true] at hid ⊢
    rcases hid with hid | hid
    · exact .inl (.inl hid)
    · exact (hstack id hid).imp_left .inr

/-- The statements of a source give the same while the source is being expanded. -/
theorem Gives.expandBlock_push (hread : readSource z = .ok file) (honly : resolve.Determines z)
    {depth : Nat} {stack : ImportStack} {out : List Step}
    (h : (expandBlock (splice resolve depth z.id.parent?) file.statements).Gives stack out) :
    (expandBlock (splice resolve depth z.id.parent?) file.statements).Gives (stack.push z.id)
      out := by
  have hsome : ∃ n out,
      (expandBlock (splice resolve n z.id.parent?) file.statements).Gives stack out :=
    ⟨depth, out, h⟩
  classical
  obtain ⟨given, hgiven⟩ := Nat.find_spec hsome
  have hle : Nat.find hsome ≤ depth := Nat.find_min' hsome ⟨out, h⟩
  have hminimal : ∀ n < Nat.find hsome, ∀ out,
      ¬ (expandBlock (splice resolve n z.id.parent?) file.statements).Gives stack out :=
    fun n hn out hout => Nat.find_min hsome hn ⟨out, hout⟩
  -- with the least depth it gives what it gives with any other
  obtain rfl : given = out := (hgiven.expandBlock_of_le hle).unique h
  have hpush : (expandBlock (splice resolve (Nat.find hsome) z.id.parent?) file.statements).Gives
      (stack.push z.id) given := by
    refine hgiven.expandBlock_mono (splice_balanced _ _) (splice_balanced _ _) fun d out hd => ?_
    refine hd.splice_of_minimal hread honly hminimal (fun _ => id) fun id hid => ?_
    rw [ImportStack.isActive_push, Bool.or_eq_true] at hid
    exact hid.symm
  exact hpush.expandBlock_of_le hle

end Included

end Expansion

end RecordScript
