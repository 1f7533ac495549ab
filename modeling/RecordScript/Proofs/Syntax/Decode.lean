import RecordScript.Proofs.Result
import RecordScript.Proofs.Syntax.Tree
import RecordScript.Proofs.Spelled.Decode

/-!
# Decoding, node by node

Decoding keeps the shape of a tree. Every node of what it gives is the decoded form of a node that
it was given, so what holds of decoded literals and names holds throughout a decoded tree.
-/

namespace RecordScript

open Result

@[simp]
theorem problemAt_eq_ok {α : Type} {pos : Position} {x : Except SyntaxProblem α} {a : α} :
    problemAt pos x = .ok a ↔ x = .ok a := by
  cases x <;> simp [problemAt]

variable [RegexEngine]

theorem decodeArgs_eq (args : List SpelledExpr) : decodeArgs args = args.mapM SpelledExpr.decode := by
  induction args with
  | nil => rw [decodeArgs, List.mapM_nil]
  | cons arg args ih => rw [decodeArgs, ih, List.mapM_cons]

theorem decodeBlock_eq (ss : List SpelledStatement) :
    decodeBlock ss = ss.mapM SpelledStatement.decode := by
  induction ss with
  | nil => rw [decodeBlock, List.mapM_nil]
  | cons s ss ih => rw [decodeBlock, ih, List.mapM_cons]

/-- A branch is decoded part by part. -/
def SpelledBranch.decode (b : SpelledBranch) : Except SyntaxError Branch := do
  let condition ← SpelledExpr.decode b.condition
  let body ← decodeBlock b.body
  return .mk condition body

theorem decodeBranches_eq (branches : List SpelledBranch) :
    decodeBranches branches = branches.mapM SpelledBranch.decode := by
  induction branches with
  | nil => rw [decodeBranches, List.mapM_nil]
  | cons b branches ih =>
    obtain ⟨condition, body⟩ := b
    rw [decodeBranches, ih, List.mapM_cons, SpelledBranch.decode]
    simp [BranchOf.condition, BranchOf.body]

namespace SpelledExpr

/-- Every child of a decoded expression is decoded from a child. -/
theorem exists_child_of_decode {e : SpelledExpr} {e' : Expr} (h : e.decode = .ok e') :
    ∀ c' ∈ e'.children, ∃ c ∈ e.children, SpelledExpr.decode c = .ok c' := by
  cases e with
  | literal pos spelling | field pos spelling =>
    simp only [decode, bind_eq_ok, pure_eq_ok, problemAt_eq_ok] at h
    obtain ⟨_, -, rfl⟩ := h
    simp [ExprOf.children]
  | call pos function args =>
    simp only [decode, bind_eq_ok, pure_eq_ok, decodeArgs_eq] at h
    obtain ⟨args', hargs, rfl⟩ := h
    exact fun c' hc' => exists_mem_of_mapM hargs hc'
  | unary pos op operand | barePattern pos operand =>
    simp only [decode, bind_eq_ok, pure_eq_ok] at h
    obtain ⟨operand', ho, rfl⟩ := h
    simpa [ExprOf.children] using ho
  | binary pos op left right | logical pos op left right | comparison pos op left right
  | pattern pos left right =>
    simp only [decode, bind_eq_ok, pure_eq_ok] at h
    obtain ⟨left', hl, right', hr, rfl⟩ := h
    intro c' hc'
    rcases List.mem_pair.mp hc' with rfl | rfl
    · exact ⟨left, List.mem_cons_self, hl⟩
    · exact ⟨right, List.mem_cons_of_mem _ List.mem_cons_self, hr⟩

/-- Every node of a decoded expression is decoded from a node. -/
theorem exists_node_of_decode {e : SpelledExpr} {e' : Expr} (h : e.decode = .ok e') :
    ∀ x' ∈ e'.nodes, ∃ x ∈ e.nodes, SpelledExpr.decode x = .ok x' := by
  induction e using ExprOf.inductionOnChildren generalizing e' with
  | step e ih =>
    intro x' hx'
    rcases ExprOf.mem_nodes_iff.mp hx' with rfl | ⟨c', hc', hbelow⟩
    · exact ⟨e, e.self_mem_nodes, h⟩
    · obtain ⟨c, hc, hdecode⟩ := exists_child_of_decode h c' hc'
      obtain ⟨x, hx, hxx'⟩ := ih c hc hdecode x' hbelow
      exact ⟨x, ExprOf.mem_nodes_iff.mpr (.inr ⟨c, hc, hx⟩), hxx'⟩

end SpelledExpr

namespace SpelledStatement

theorem exists_node_of_decodeBlock_of_forall {ss : List SpelledStatement} {ss' : List Statement}
    (hss : decodeBlock ss = .ok ss')
    (h : ∀ s ∈ ss, ∀ s', SpelledStatement.decode s = .ok s' →
      ∀ x' ∈ s'.expressions, ∃ x ∈ s.expressions, SpelledExpr.decode x = .ok x') :
    ∀ x' ∈ StatementOf.blockExpressions ss',
      ∃ x ∈ StatementOf.blockExpressions ss, SpelledExpr.decode x = .ok x' := by
  rw [decodeBlock_eq] at hss
  simp only [StatementOf.blockExpressions_eq, List.mem_flatMap]
  rintro x' ⟨s', hs', hx'⟩
  obtain ⟨s, hs, hdecode⟩ := exists_mem_of_mapM hss hs'
  obtain ⟨x, hx, hxx'⟩ := h s hs s' hdecode x' hx'
  exact ⟨x, ⟨s, hs, hx⟩, hxx'⟩

theorem exists_node_of_decodeBranches_of_forall {branches : List SpelledBranch}
    {branches' : List Branch} (hbranches : decodeBranches branches = .ok branches')
    (h : ∀ b ∈ branches, ∀ s ∈ b.body, ∀ s', SpelledStatement.decode s = .ok s' →
      ∀ x' ∈ s'.expressions, ∃ x ∈ s.expressions, SpelledExpr.decode x = .ok x') :
    ∀ x' ∈ StatementOf.branchExpressions branches',
      ∃ x ∈ StatementOf.branchExpressions branches, SpelledExpr.decode x = .ok x' := by
  rw [decodeBranches_eq] at hbranches
  simp only [StatementOf.branchExpressions_eq, List.mem_flatMap]
  rintro x' ⟨b', hb', hx'⟩
  obtain ⟨b, hb, hdecode⟩ := exists_mem_of_mapM hbranches hb'
  simp only [SpelledBranch.decode, bind_eq_ok, pure_eq_ok] at hdecode
  obtain ⟨condition, hc, body, hbody, rfl⟩ := hdecode
  rcases List.mem_append.mp hx' with hx' | hx'
  · obtain ⟨x, hx, hxx'⟩ := SpelledExpr.exists_node_of_decode hc x' hx'
    exact ⟨x, ⟨b, hb, List.mem_append_left _ hx⟩, hxx'⟩
  · obtain ⟨x, hx, hxx'⟩ := exists_node_of_decodeBlock_of_forall hbody (h b hb) x' hx'
    exact ⟨x, ⟨b, hb, List.mem_append_right _ hx⟩, hxx'⟩

/-- Every node of the expressions of a decoded statement is decoded from a node. -/
theorem exists_node_of_decode {s : SpelledStatement} {s' : Statement} (h : s.decode = .ok s') :
    ∀ x' ∈ s'.expressions, ∃ x ∈ s.expressions, SpelledExpr.decode x = .ok x' := by
  induction s using StatementOf.inductionOn generalizing s' with
  | assign pos field value =>
    simp only [decode, bind_eq_ok, pure_eq_ok] at h
    obtain ⟨name, -, value', hv, rfl⟩ := h
    exact SpelledExpr.exists_node_of_decode hv
  | call pos function args =>
    simp only [decode, bind_eq_ok, pure_eq_ok] at h
    obtain ⟨args', hargs, rfl⟩ := h
    have hcall : SpelledExpr.decode (.call pos function args) = .ok (.call pos function args') := by
      simp [SpelledExpr.decode, hargs]
    exact SpelledExpr.exists_node_of_decode hcall
  | directive d =>
    simp only [decode, bind_eq_ok, pure_eq_ok] at h
    obtain ⟨d', -, rfl⟩ := h
    simp [StatementOf.expressions]
  | rule branches otherwise ihb iho =>
    rw [decode, bind_eq_ok] at h
    obtain ⟨branches', hbranches, h⟩ := h
    have hb := exists_node_of_decodeBranches_of_forall hbranches fun b hb s hs s' => ihb b hb s hs
    cases otherwise with
    | none =>
      obtain rfl := pure_eq_ok.mp h
      simpa [StatementOf.expressions] using hb
    | some body =>
      simp only [bind_eq_ok, pure_eq_ok] at h
      obtain ⟨body', hbody, rfl⟩ := h
      have ho := exists_node_of_decodeBlock_of_forall hbody fun s hs s' => iho body rfl s hs
      simp only [StatementOf.expressions, List.mem_append]
      rintro x' (hx' | hx')
      · obtain ⟨x, hx, hxx'⟩ := hb x' hx'
        exact ⟨x, .inl hx, hxx'⟩
      · obtain ⟨x, hx, hxx'⟩ := ho x' hx'
        exact ⟨x, .inr hx, hxx'⟩

/-- Every node of the expressions of decoded statements is decoded from a node. -/
theorem exists_node_of_decodeBlock {ss : List SpelledStatement} {ss' : List Statement}
    (h : decodeBlock ss = .ok ss') :
    ∀ x' ∈ StatementOf.blockExpressions ss',
      ∃ x ∈ StatementOf.blockExpressions ss, SpelledExpr.decode x = .ok x' :=
  exists_node_of_decodeBlock_of_forall h fun _ _ _ => exists_node_of_decode

end SpelledStatement

/-- A pattern is read from a text if it has this text and the same treatment of case. -/
theorem Pattern.ofSource_eq_ok {source : String} {ignoreCase : Bool} {p : Pattern} :
    Pattern.ofSource source ignoreCase = .ok p ↔ p.source = source ∧ p.ignoreCase = ignoreCase := by
  constructor
  · intro h
    unfold Pattern.ofSource at h
    split at h
    · cases h
      exact ⟨rfl, rfl⟩
    · cases h
  · rintro ⟨rfl, rfl⟩
    unfold Pattern.ofSource
    split
    · exact congrArg Except.ok (Pattern.ext rfl rfl)
    · rename_i e he
      cases p.compile_eq.symm.trans he

/-- A literal can stand for a pattern without a subject exactly if its value is a pattern. -/
theorem LiteralSpelling.isPattern_of_decode {spelling : LiteralSpelling} {value : Value}
    (h : spelling.decode = .ok value) : spelling.isPattern = value.isPattern := by
  cases spelling with
  | boolean b =>
    cases h
    rfl
  | number numeral =>
    rw [decode] at h
    split at h <;> cases h
    rfl
  | quoted body =>
    obtain ⟨cs, -, rfl⟩ := Result.map_eq_ok.mp h
    rfl
  | regex body =>
    rw [decode] at h
    split at h
    · cases h
      rfl
    · cases h

/-- A pattern that a literal stands for does not ignore case. -/
theorem LiteralSpelling.ignoreCase_of_decode {spelling : LiteralSpelling} {p : Pattern}
    (h : spelling.decode = .ok (.regex p)) : p.ignoreCase = false := by
  cases spelling with
  | regex body =>
    rw [decode] at h
    split at h
    · rename_i q hq
      cases h
      exact (Pattern.ofSource_eq_ok.mp hq).2
    · cases h
  | number numeral =>
    rw [decode] at h
    split at h <;> cases h
  | _ => simp [decode] at h

/-- The patterns of a file do not ignore case before it is prepared. -/
theorem SpelledFile.ignoreCase_of_decode {file : SpelledFile} {file' : SourceFile}
    (h : file.decode = .ok file') {pos : Position} {p : Pattern}
    (hp : .literal pos (.regex p) ∈ StatementOf.blockExpressions file'.statements) :
    p.ignoreCase = false := by
  simp only [SpelledFile.decode, bind_eq_ok, pure_eq_ok] at h
  obtain ⟨header, -, statements, hstatements, rfl⟩ := h
  obtain ⟨x, -, hx⟩ := SpelledStatement.exists_node_of_decodeBlock hstatements _ hp
  cases x with
  | literal pos' spelling =>
    simp only [SpelledExpr.decode, bind_eq_ok, pure_eq_ok, problemAt_eq_ok] at hx
    obtain ⟨v, hv, heq⟩ := hx
    cases heq
    exact LiteralSpelling.ignoreCase_of_decode hv
  | _ =>
    simp only [SpelledExpr.decode, bind_eq_ok, pure_eq_ok] at hx
    grind

end RecordScript
