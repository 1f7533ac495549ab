import RecordScript.Proofs.Syntax.Tree

/-!
# Equality of trees

Equality of expressions, statements and steps can be decided: two trees are compared from their
roots on. What a text is read as, or loaded as, is then a closed statement that can be computed.
-/

namespace RecordScript

namespace ExprOf

variable {Lit Name : Type} [DecidableEq Lit] [DecidableEq Name]

mutual

/-- Whether two expressions are equal. -/
def isEq : ExprOf Lit Name → ExprOf Lit Name → Bool
  | .literal p v, .literal q w => p == q && v == w
  | .field p n, .field q m => p == q && n == m
  | .call p f as, .call q g bs => p == q && f == g && allEq as bs
  | .unary p op a, .unary q op' b => p == q && op == op' && isEq a b
  | .binary p op a b, .binary q op' a' b' => p == q && op == op' && isEq a a' && isEq b b'
  | .logical p op a b, .logical q op' a' b' => p == q && op == op' && isEq a a' && isEq b b'
  | .comparison p op a b, .comparison q op' a' b' =>
    p == q && op == op' && isEq a a' && isEq b b'
  | .pattern p a b, .pattern q a' b' => p == q && isEq a a' && isEq b b'
  | .barePattern p a, .barePattern q b => p == q && isEq a b
  | _, _ => false

/-- Whether two lists of expressions are equal. -/
def allEq : List (ExprOf Lit Name) → List (ExprOf Lit Name) → Bool
  | [], [] => true
  | a :: as, b :: bs => isEq a b && allEq as bs
  | _, _ => false

end

theorem allEq_iff_of_forall {as bs : List (ExprOf Lit Name)}
    (h : ∀ a ∈ as, ∀ b, isEq a b = true ↔ a = b) : allEq as bs = true ↔ as = bs := by
  induction as generalizing bs with
  | nil => cases bs <;> simp [allEq]
  | cons a as ih =>
    obtain ⟨ha, has⟩ := List.forall_mem_cons.mp h
    cases bs with
    | nil => simp [allEq]
    | cons b bs => simp [allEq, ha, ih has]

theorem isEq_iff {a b : ExprOf Lit Name} : isEq a b = true ↔ a = b := by
  induction a generalizing b with
  | call pos function args ih =>
    have hargs : ∀ bs, allEq args bs = true ↔ args = bs := fun _ =>
      allEq_iff_of_forall fun a ha _ => ih a ha
    cases b <;> simp [isEq, and_assoc, hargs]
  | _ => cases b <;> simp_all [isEq, and_assoc]

instance : DecidableEq (ExprOf Lit Name) := fun _ _ => decidable_of_iff _ isEq_iff

end ExprOf

deriving instance DecidableEq for DirectiveOf

namespace StatementOf

variable {Lit Name : Type} [DecidableEq Lit] [DecidableEq Name]

mutual

/-- Whether two statements are equal. -/
def isEq : StatementOf Lit Name → StatementOf Lit Name → Bool
  | .assign p n v, .assign q m w => p == q && n == m && v == w
  | .call p f as, .call q g bs => p == q && f == g && as == bs
  | .rule bs none, .rule bs' none => branchesEq bs bs'
  | .rule bs (some body), .rule bs' (some body') => branchesEq bs bs' && blockEq body body'
  | .directive d, .directive d' => d == d'
  | _, _ => false

/-- Whether two lists of statements are equal. -/
def blockEq : List (StatementOf Lit Name) → List (StatementOf Lit Name) → Bool
  | [], [] => true
  | s :: ss, t :: ts => isEq s t && blockEq ss ts
  | _, _ => false

/-- Whether two lists of branches are equal. -/
def branchesEq : List (BranchOf Lit Name) → List (BranchOf Lit Name) → Bool
  | [], [] => true
  | .mk c body :: bs, .mk c' body' :: bs' => c == c' && blockEq body body' && branchesEq bs bs'
  | _, _ => false

end

theorem blockEq_iff_of_forall {ss ts : List (StatementOf Lit Name)}
    (h : ∀ s ∈ ss, ∀ t, isEq s t = true ↔ s = t) : blockEq ss ts = true ↔ ss = ts := by
  induction ss generalizing ts with
  | nil => cases ts <;> simp [blockEq]
  | cons s ss ih =>
    obtain ⟨hs, hss⟩ := List.forall_mem_cons.mp h
    cases ts with
    | nil => simp [blockEq]
    | cons t ts => simp [blockEq, hs, ih hss]

theorem branchesEq_iff_of_forall {bs bs' : List (BranchOf Lit Name)}
    (h : ∀ b ∈ bs, ∀ s ∈ b.body, ∀ t, isEq s t = true ↔ s = t) :
    branchesEq bs bs' = true ↔ bs = bs' := by
  induction bs generalizing bs' with
  | nil => cases bs' <;> simp [branchesEq]
  | cons b bs ih =>
    obtain ⟨hb, hbs⟩ := List.forall_mem_cons.mp h
    obtain ⟨condition, body⟩ := b
    cases bs' with
    | nil => simp [branchesEq]
    | cons b' bs' =>
      obtain ⟨condition', body'⟩ := b'
      have hbody : blockEq body body' = true ↔ body = body' := blockEq_iff_of_forall hb
      simp [branchesEq, hbody, ih hbs]

theorem isEq_iff {s t : StatementOf Lit Name} : isEq s t = true ↔ s = t := by
  induction s generalizing t with
  | rule branches otherwise ihb iho =>
    have hbranches : ∀ bs, branchesEq branches bs = true ↔ branches = bs := fun _ =>
      branchesEq_iff_of_forall fun b hb s hs _ => ihb b hb s hs
    cases otherwise with
    | none => cases t with
      | rule bs o => cases o <;> simp [isEq, hbranches]
      | _ => simp [isEq]
    | some body =>
      have hbody : ∀ ts, blockEq body ts = true ↔ body = ts := fun _ =>
        blockEq_iff_of_forall fun s hs _ => iho body rfl s hs
      cases t with
      | rule bs o => cases o <;> simp [isEq, hbranches, hbody]
      | _ => simp [isEq]
  | _ => cases t <;> simp [isEq, and_assoc]

instance : DecidableEq (StatementOf Lit Name) := fun _ _ => decidable_of_iff _ isEq_iff

end StatementOf

deriving instance DecidableEq for SourceFileOf

variable [RegexEngine]

namespace Step

mutual

/-- Whether two steps are equal. -/
def isEq : Step → Step → Bool
  | .assign p n v, .assign q m w => p == q && n == m && v == w
  | .call p f as, .call q g bs => p == q && f == g && as == bs
  | .rule as none, .rule as' none => armsEq as as'
  | .rule as (some body), .rule as' (some body') => armsEq as as' && blockEq body body'
  | _, _ => false

/-- Whether two lists of steps are equal. -/
def blockEq : List Step → List Step → Bool
  | [], [] => true
  | s :: ss, t :: ts => isEq s t && blockEq ss ts
  | _, _ => false

/-- Whether two lists of arms are equal. -/
def armsEq : List Arm → List Arm → Bool
  | [], [] => true
  | .mk c body :: as, .mk c' body' :: as' => c == c' && blockEq body body' && armsEq as as'
  | _, _ => false

end

theorem blockEq_iff_of_forall {ss ts : List Step}
    (h : ∀ s ∈ ss, ∀ t, isEq s t = true ↔ s = t) : blockEq ss ts = true ↔ ss = ts := by
  induction ss generalizing ts with
  | nil => cases ts <;> simp [blockEq]
  | cons s ss ih =>
    obtain ⟨hs, hss⟩ := List.forall_mem_cons.mp h
    cases ts with
    | nil => simp [blockEq]
    | cons t ts => simp [blockEq, hs, ih hss]

theorem armsEq_iff_of_forall {as as' : List Arm}
    (h : ∀ a ∈ as, ∀ s ∈ a.body, ∀ t, isEq s t = true ↔ s = t) :
    armsEq as as' = true ↔ as = as' := by
  induction as generalizing as' with
  | nil => cases as' <;> simp [armsEq]
  | cons a as ih =>
    obtain ⟨ha, has⟩ := List.forall_mem_cons.mp h
    obtain ⟨condition, body⟩ := a
    cases as' with
    | nil => simp [armsEq]
    | cons a' as' =>
      obtain ⟨condition', body'⟩ := a'
      have hbody : blockEq body body' = true ↔ body = body' := blockEq_iff_of_forall ha
      simp [armsEq, hbody, ih has]

theorem isEq_iff {s t : Step} : isEq s t = true ↔ s = t := by
  induction s generalizing t with
  | rule arms otherwise iha iho =>
    have harms : ∀ as, armsEq arms as = true ↔ arms = as := fun _ =>
      armsEq_iff_of_forall fun a ha s hs _ => iha a ha s hs
    cases otherwise with
    | none => cases t with
      | rule as o => cases o <;> simp [isEq, harms]
      | _ => simp [isEq]
    | some body =>
      have hbody : ∀ ts, blockEq body ts = true ↔ body = ts := fun _ =>
        blockEq_iff_of_forall fun s hs _ => iho body rfl s hs
      cases t with
      | rule as o => cases o <;> simp [isEq, harms, hbody]
      | _ => simp [isEq]
  | _ => cases t <;> simp [isEq, and_assoc]

instance : DecidableEq Step := fun _ _ => decidable_of_iff _ isEq_iff

end Step

deriving instance DecidableEq for Program

end RecordScript
