import RecordScript.Grammar.Builder
import RecordScript.Proofs.Spelled.Statement
import RecordScript.Proofs.Syntax.Decode

/-!
# Building and decoding

What is built from the nodes of a construct is what its spelled form is decoded to, once that is so
for the parts. Operators are folded and signs are peeled off on trees here, and on spelled
expressions there.
-/

namespace RecordScript

/-! ### Results of building -/

namespace Build

variable {α β : Type}

@[simp]
theorem ofResult_ok (a : α) : ofResult (.ok a) = pure a := rfl

@[simp]
theorem ofResult_error (e : SyntaxError) : ofResult (.error e : Except SyntaxError α) =
    .error (.invalid e) := rfl

@[simp]
theorem ofResult_pure (a : α) : ofResult (pure a) = pure a := rfl

@[simp]
theorem ofResult_bind (x : Except SyntaxError α) (f : α → Except SyntaxError β) :
    ofResult (x >>= f) = ofResult x >>= fun a => ofResult (f a) := by
  cases x <;> rfl

@[simp]
theorem ofResult_map (f : α → β) (x : Except SyntaxError α) :
    ofResult (f <$> x) = f <$> ofResult x := by
  cases x <;> rfl

/-- Results of a list of trees are built one after the other. -/
theorem mapM_eq_ofResult {γ : Type} {f : α → Build γ} {g : β → Except SyntaxError γ} {as : List α}
    {bs : List β} (h : List.Forall₂ (fun a b => f a = ofResult (g b)) as bs) :
    as.mapM f = ofResult (bs.mapM g) := by
  induction h with
  | nil => rfl
  | cons ha _ ih => simp [List.mapM_cons, ha, ih]

end Build

namespace ParseTree

variable {t : ParseTree} {construct : Construct}

@[simp]
theorem expect_eq (h : t.construct = construct) : t.expect construct = pure () := if_pos h

@[simp]
theorem next_cons (what : String) (t : ParseTree) (ts : List ParseTree) :
    next what (t :: ts) = pure (t, ts) := rfl

@[simp]
theorem nextOf_cons (h : t.construct = construct) (ts : List ParseTree) :
    nextOf construct (t :: ts) = pure (t, ts) := by
  simp [nextOf, h]

end ParseTree

variable [RegexEngine]

/-! ### Conditions -/

namespace SpelledExpr

/-- Whether an expression becomes a pattern without a subject can be seen before decoding it. -/
theorem decode_asCondition (s : SpelledExpr) :
    decode s.asCondition = Expr.asCondition <$> decode s := by
  cases s with
  | literal pos spelling =>
    cases hvalue : spelling.decode with
    | error problem =>
      rw [asCondition]
      split <;> simp [decode, hvalue, problemAt]
    | ok value =>
      rw [asCondition, LiteralSpelling.isPattern_of_decode hvalue]
      cases hpattern : value.isPattern <;>
        simp [decode, hvalue, problemAt, Expr.asCondition, hpattern]
  | _ => simp [asCondition, decode, Expr.asCondition]

/-- Signs in front of an operand are put around what it stands for. -/
theorem decode_applyUnary (ops : List (Position × UnaryOp)) (s : SpelledExpr) :
    decode (Grammar.applyUnary ops s) =
      (fun e => ops.foldr (fun (pos, op) e => .unary pos op e) e) <$> decode s := by
  induction ops with
  | nil => simp [Grammar.applyUnary]
  | cons op ops ih =>
    rw [Grammar.applyUnary] at ih ⊢
    simp [decode, ih]

theorem decode_applyNot (nots : List Position) (s : SpelledExpr) :
    decode (Grammar.applyNot nots s) =
      (fun e => nots.foldr (fun pos e => .unary pos .not (Expr.asCondition e)) e) <$> decode s := by
  induction nots with
  | nil => simp [Grammar.applyNot]
  | cons pos nots ih =>
    rw [Grammar.applyNot] at ih ⊢
    simp [decode, decode_asCondition, ih]

end SpelledExpr

namespace Builder

open Build SpelledExpr

variable {expr operand : ParseTree → Build Expr}

/-! ### Chains of operators -/

/-- The nodes of a sign and of the operand behind it, with the operator and the operand that they
are spelled as. -/
def IsApplied (operand : ParseTree → Build Expr) (ts : List ParseTree)
    (applied : Position × BinaryOp × SpelledExpr) : Prop :=
  ∃ sign t, ts = [sign, t] ∧ sign.position = applied.1 ∧ binaryOp? sign.text = some applied.2.1 ∧
    operand t = ofResult applied.2.2.decode

theorem binaryRest_eq {tss : List (List ParseTree)}
    {others : List (Position × BinaryOp × SpelledExpr)}
    (h : List.Forall₂ (IsApplied operand) tss others) (first : SpelledExpr) :
    (do binaryRest operand (← ofResult first.decode) tss.flatten) =
      ofResult (decode (others.foldl (fun left (pos, op, right) => .binary pos op left right)
        first)) := by
  induction h generalizing first with
  | nil => simp [binaryRest]
  | @cons _ applied tss others happlied _ ih =>
    obtain ⟨pos, op, right⟩ := applied
    obtain ⟨sign, t, rfl, hpos, hop, ht⟩ := happlied
    rw [List.foldl_cons, ← ih]
    change (do binaryRest operand (← ofResult first.decode) (sign :: t :: tss.flatten)) = _
    simp only at hpos hop ht
    simp [binaryRest, hop, ht, hpos, decode]

/-- Operands between operators of one level. -/
theorem binaryChain_eq {construct : Construct} {pos : Position} {text : List Char} {t : ParseTree}
    {tss : List (List ParseTree)} {first : SpelledExpr}
    {others : List (Position × BinaryOp × SpelledExpr)}
    (hfirst : operand t = ofResult first.decode)
    (h : List.Forall₂ (IsApplied operand) tss others) :
    binaryChain operand ⟨construct, pos, text, t :: tss.flatten⟩ =
      ofResult (decode (others.foldl (fun left (pos, op, right) => .binary pos op left right)
        first)) := by
  rw [← binaryRest_eq h, ← hfirst]
  simp [binaryChain]

theorem logicalRest_eq (op : LogicalOp) (pos : Position) {ts : List ParseTree}
    {others : List SpelledExpr}
    (h : List.Forall₂ (fun t s => operand t = ofResult (decode s)) ts others)
    (first : SpelledExpr) :
    (do logicalRest op pos operand (← ofResult first.decode) ts) =
      ofResult (decode (others.foldl
        (fun left right => .logical pos op left (SpelledExpr.asCondition right)) first)) := by
  induction h generalizing first with
  | nil => simp [logicalRest]
  | @cons t s ts others ht _ ih =>
    rw [List.foldl_cons, ← ih]
    simp [logicalRest, ht, decode, decode_asCondition]

/-- Operands of a logical operator. -/
theorem logical_eq {construct : Construct} {op : LogicalOp} {pos : Position} {text : List Char}
    {t : ParseTree} {ts : List ParseTree} {first : SpelledExpr} {others : List SpelledExpr}
    (hfirst : operand t = ofResult first.decode)
    (h : List.Forall₂ (fun t s => operand t = ofResult (decode s)) ts others) :
    logical op operand ⟨construct, pos, text, t :: ts⟩ =
      ofResult (decode (Grammar.joinLogical op pos first others)) := by
  cases h with
  | nil => simp [logical, hfirst, Grammar.joinLogical]
  | @cons t' s ts others ht hts =>
    have hrest := logicalRest_eq op pos (List.Forall₂.cons ht hts)
      (SpelledExpr.asCondition first)
    rw [Grammar.joinLogical, ← hrest]
    · simp [logical, hfirst, decode_asCondition]
    · exact List.cons_ne_nil s others

/-! ### Signs in front of an operand -/

/-- A sign in front of an operand, as it is spelled. -/
def IsSign (t : ParseTree) (op : Position × UnaryOp) : Prop :=
  t.construct = .unarySign ∧ t.position = op.1 ∧
    (if t.text = ['-'] then UnaryOp.minus else .plus) = op.2

theorem unaryParts_append {signs : List ParseTree} {ops : List (Position × UnaryOp)}
    (h : List.Forall₂ IsSign signs ops) (before : List (Position × UnaryOp)) (operand : Option Expr)
    (ts : List ParseTree) :
    unaryParts expr before operand (signs ++ ts) =
      unaryParts expr (ops.reverse ++ before) operand ts := by
  induction h generalizing before with
  | nil => rfl
  | @cons t op signs ops hsign _ ih =>
    obtain ⟨hconstruct, hpos, hop⟩ := hsign
    rw [List.cons_append, unaryParts, if_pos hconstruct, ih, hpos, hop]
    simp

theorem unary_eq {construct : Construct} {pos : Position} {text : List Char}
    {signs : List ParseTree} {ops : List (Position × UnaryOp)} {t : ParseTree} {s : SpelledExpr}
    (h : List.Forall₂ IsSign signs ops) (hsign : t.construct ≠ .unarySign)
    (ht : primary expr t = ofResult s.decode) :
    unary expr ⟨construct, pos, text, signs ++ [t]⟩ =
      ofResult (decode (Grammar.applyUnary ops s)) := by
  rw [decode_applyUnary, unary, unaryParts_append h, unaryParts, if_neg hsign, ht]
  simp [unaryParts]

theorem negationParts_append {signs : List ParseTree} {nots : List Position}
    (h : List.Forall₂ (fun t pos => t.construct = .notSign ∧ t.position = pos) signs nots)
    (before : List Position) (operand : Option Expr) (ts : List ParseTree) :
    negationParts expr before operand (signs ++ ts) =
      negationParts expr (nots.reverse ++ before) operand ts := by
  induction h generalizing before with
  | nil => rfl
  | @cons t pos signs nots hsign _ ih =>
    obtain ⟨hconstruct, rfl⟩ := hsign
    rw [List.cons_append, negationParts]
    simp only [hconstruct]
    rw [ih]
    simp

theorem negation_eq {construct : Construct} {pos : Position} {text : List Char}
    {signs : List ParseTree} {nots : List Position} {t : ParseTree} {s : SpelledExpr}
    (h : List.Forall₂ (fun t pos => t.construct = .notSign ∧ t.position = pos) signs nots)
    (hcomparison : t.construct = .comparison) (ht : comparison expr t = ofResult s.decode) :
    negation expr ⟨construct, pos, text, signs ++ [t]⟩ =
      ofResult (decode (Grammar.applyNot nots s)) := by
  rw [decode_applyNot, negation, negationParts_append h, negationParts]
  simp [hcomparison, ht, negationParts]

/-! ### Comparisons -/

/-- One of the signs of comparisons is found, and the tilde is the one without an operator. -/
theorem compared_eq {sign : String} (h : sign ∈ Token.compareSigns) (pos : Position)
    (left right : Expr) :
    compared pos left right sign.toList = pure (match Grammar.compareOp? sign.toList with
      | some op => .comparison pos op left right
      | none => .pattern pos left right) := by
  simp only [Token.compareSigns, List.mem_cons, List.not_mem_nil, or_false] at h
  rcases h with rfl | rfl | rfl | rfl | rfl | rfl | rfl <;> rfl

/-! ### Rules -/

variable {limit : Nat} {statement : ParseTree → Build Statement}

/-- A branch with a condition, as it is spelled. -/
def IsBranch (limit : Nat) (statement : ParseTree → Build Statement) (t : ParseTree)
    (b : SpelledBranch) : Prop :=
  (t.construct = .ifBranch ∨ t.construct = .elifBranch) ∧
    branch limit statement t = ofResult b.decode

theorem ruleParts_append {ts : List ParseTree} {branches : List SpelledBranch}
    (h : List.Forall₂ (IsBranch limit statement) ts branches) (before : List Branch)
    (otherwise : Option (List Statement)) (rest : List ParseTree) :
    ruleParts limit statement before otherwise (ts ++ rest) =
      (do
        let branches ← ofResult (branches.mapM SpelledBranch.decode)
        ruleParts limit statement (before ++ branches) otherwise rest) := by
  induction h generalizing before with
  | nil => simp
  | @cons t b ts branches hbranch _ ih =>
    obtain ⟨hconstruct | hconstruct, hb⟩ := hbranch <;>
    · rw [List.cons_append, ruleParts]
      simp [hconstruct, hb, ih, List.mapM_cons]

end Builder

end RecordScript
