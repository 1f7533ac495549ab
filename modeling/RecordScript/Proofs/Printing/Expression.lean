import RecordScript.Proofs.Printing.Token
import RecordScript.Proofs.Syntax.Unplaced

/-!
# Reading what is printed, expression by expression

A printed expression is read as a primary expression, whatever follows it. By induction over the
expression; the readings inside its parentheses go through all levels of the grammar down to the one
of its operator.
-/

namespace RecordScript

namespace Language

open Reading

/-! ### From level to level -/

section Levels

variable {E : Reading SpelledExpr} {cs rest : List Char} {e : SpelledExpr}

theorem unary_of_primary (h : primary E cs e rest) : unary E cs e rest :=
  ⟨[], cs, .nil, e, rest, h, rfl, rfl⟩

theorem binaryLevel_of_operand {signs : List String} {operand : Reading SpelledExpr}
    (h : operand cs e rest) : binaryLevel signs operand cs e rest :=
  ⟨e, rest, h, [], rest, .nil, rfl, rfl⟩

theorem sum_of_primary (h : primary E cs e rest) : sum E cs e rest :=
  binaryLevel_of_operand (binaryLevel_of_operand (unary_of_primary h))

theorem comparison_of_sum (h : sum E cs e rest) : comparison E cs e rest :=
  ⟨e, rest, h, none, rest, optional_iff.mpr (.inr ⟨rfl, rfl⟩), rfl, rfl⟩

theorem negation_of_comparison (h : comparison E cs e rest) : negation E cs e rest :=
  ⟨[], cs, .nil, e, rest, h, rfl, rfl⟩

theorem conjunction_of_negation (h : negation E cs e rest) : conjunction E cs e rest :=
  ⟨e, rest, h, [], rest, .nil, rfl, rfl⟩

theorem alternatives_of_conjunction (h : conjunction E cs e rest) : alternatives E cs e rest :=
  ⟨none, cs, optional_iff.mpr (.inr ⟨rfl, rfl⟩), e, rest, h, [], rest, .nil, rfl, rfl⟩

theorem negation_of_primary (h : primary E cs e rest) : negation E cs e rest :=
  negation_of_comparison (comparison_of_sum (sum_of_primary h))

theorem alternatives_of_negation (h : negation E cs e rest) : alternatives E cs e rest :=
  alternatives_of_conjunction (conjunction_of_negation h)

theorem alternatives_of_sum (h : sum E cs e rest) : alternatives E cs e rest :=
  alternatives_of_negation (negation_of_comparison (comparison_of_sum h))

end Levels

/-! ### Operators -/

section Operators

variable {E : Reading SpelledExpr} {cs rest : List Char} {ts : List (List Char)} {l r : SpelledExpr}

theorem operator_written {α : Type} {signs : List String} (hsigns : ∀ s ∈ signs, Token.IsSign s)
    (op : List Char → α) {s : String} (h : Token.anySign signs s.toList = some (s.toList, []))
    (hstart : ∃ c ∈ s.toList.head?, endsLayout c = true) (ts : List (List Char)) :
    operator signs op (written (s.toList :: ts)) (op s.toList) (written ts) :=
  map_iff.mpr ⟨s.toList, token_written (Token.isToken_anySign hsigns) h hstart ts, rfl⟩

theorem binaryLevel_of_operator {signs : List String} {operand : Reading SpelledExpr}
    {mid mid' : List Char} {op : BinaryOp} (hl : operand cs l mid)
    (hop : operator signs Grammar.binaryOp mid op mid') (hr : operand mid' r rest) :
    binaryLevel signs operand cs (.binary default op l r) rest :=
  ⟨l, mid, hl, [(op, r)], rest, .cons ⟨op, mid', hop, r, rest, hr, rfl, rfl⟩ .nil, rfl, rfl⟩

theorem sum_of_mulSign {op : BinaryOp} (hop : op = .mul ∨ op = .div ∨ op = .rem)
    (hl : primary E cs l (written (op.sign.toList :: ts))) (hr : primary E (written ts) r rest) :
    sum E cs (.binary default op l r) rest := by
  have hoperator : operator mulSigns Grammar.binaryOp (written (op.sign.toList :: ts))
      (Grammar.binaryOp op.sign.toList) (written ts) := by
    rcases hop with rfl | rfl | rfl <;>
      exact operator_written (by decide) _ (by decide) (by decide) ts
  have hvalue : Grammar.binaryOp op.sign.toList = op := by rcases hop with rfl | rfl | rfl <;> rfl
  rw [hvalue] at hoperator
  exact binaryLevel_of_operand
    (binaryLevel_of_operator (unary_of_primary hl) hoperator (unary_of_primary hr))

theorem sum_of_addSign {op : BinaryOp} (hop : op = .add ∨ op = .sub ∨ op = .concat)
    (hl : primary E cs l (written (op.sign.toList :: ts))) (hr : primary E (written ts) r rest) :
    sum E cs (.binary default op l r) rest := by
  have hoperator : operator addSigns Grammar.binaryOp (written (op.sign.toList :: ts))
      (Grammar.binaryOp op.sign.toList) (written ts) := by
    rcases hop with rfl | rfl | rfl <;>
      exact operator_written (by decide) _ (by decide) (by decide) ts
  have hvalue : Grammar.binaryOp op.sign.toList = op := by rcases hop with rfl | rfl | rfl <;> rfl
  rw [hvalue] at hoperator
  exact binaryLevel_of_operator (binaryLevel_of_operand (unary_of_primary hl)) hoperator
    (binaryLevel_of_operand (unary_of_primary hr))

/-- The sign between two operands decides on the level at which they are read. -/
theorem sum_binary (op : BinaryOp) (hl : primary E cs l (written (op.sign.toList :: ts)))
    (hr : primary E (written ts) r rest) : sum E cs (.binary default op l r) rest := by
  cases op with
  | add | sub | concat => exact sum_of_addSign (by simp) hl hr
  | mul | div | rem => exact sum_of_mulSign (by simp) hl hr

theorem comparison_of_sign {s : String}
    (hsign : Token.anySign Token.compareSigns s.toList = some (s.toList, []))
    (hstart : ∃ c ∈ s.toList.head?, endsLayout c = true)
    (hl : primary E cs l (written (s.toList :: ts))) (hr : primary E (written ts) r rest) :
    comparison E cs (compareTree (Grammar.compareOp? s.toList) l r) rest := by
  have htoken := token_written isToken_compareSigns hsign hstart ts
  refine ⟨l, _, sum_of_primary hl, some (Grammar.compareOp? s.toList, r), rest,
    optional_iff.mpr (.inl ⟨_, ⟨s.toList, written ts, htoken, r, rest, sum_of_primary hr, rfl,
      rfl⟩, rfl⟩), rfl, rfl⟩

theorem comparison_comparison (op : CompareOp)
    (hl : primary E cs l (written (op.sign.toList :: ts))) (hr : primary E (written ts) r rest) :
    comparison E cs (.comparison default op l r) rest := by
  have h := comparison_of_sign (by cases op <;> decide) (by cases op <;> decide) hl hr
  have hop : Grammar.compareOp? op.sign.toList = some op := by cases op <;> rfl
  rwa [hop] at h

theorem comparison_pattern (hl : primary E cs l (written (['~'] :: ts)))
    (hr : primary E (written ts) r rest) : comparison E cs (.pattern default l r) rest :=
  comparison_of_sign (by decide) (by decide) hl hr (s := "~")

/-- Both logical operators turn their operands into conditions. -/
theorem alternatives_logical (op : LogicalOp)
    (hl : primary E cs l (written (op.sign.toList :: ts))) (hr : primary E (written ts) r rest) :
    alternatives E cs (.logical default op l.asCondition r.asCondition) rest := by
  cases op with
  | and =>
    have hsign := sign_written (s := "&") (by decide) (by decide) ts
    refine alternatives_of_conjunction
      ⟨l, _, negation_of_primary hl, [r], rest, .cons ?_ .nil, rfl, rfl⟩
    exact ⟨_, _, hsign, negation_of_primary hr⟩
  | or =>
    have hsign := sign_written (s := "|") (by decide) (by decide) ts
    refine ⟨none, cs, optional_iff.mpr (.inr ⟨rfl, rfl⟩), l, _,
      conjunction_of_negation (negation_of_primary hl), [r], rest, .cons ?_ .nil, rfl, rfl⟩
    exact ⟨_, _, hsign, conjunction_of_negation (negation_of_primary hr)⟩

theorem negation_not (h : primary E (written ts) l rest) :
    negation E (written (UnaryOp.not.sign.toList :: ts)) (.unary default .not l.asCondition) rest :=
  ⟨[()], _, .cons (operator_written (by decide) _ (by decide) (by decide) ts) .nil, l, rest,
    comparison_of_sum (sum_of_primary h), rfl, rfl⟩

theorem unary_sign {op : UnaryOp} (hop : op ≠ .not) (h : primary E (written ts) l rest) :
    unary E (written (op.sign.toList :: ts)) (.unary default op l) rest := by
  cases op with
  | not => exact absurd rfl hop
  | plus =>
    exact ⟨[.plus], _, .cons (operator_written (by decide) _ (by decide) (by decide) ts) .nil, l,
      rest, h, rfl, rfl⟩
  | minus =>
    exact ⟨[.minus], _, .cons (operator_written (by decide) _ (by decide) (by decide) ts) .nil, l,
      rest, h, rfl, rfl⟩

/-- An expression between parentheses is a primary expression one level deeper. -/
theorem primary_parenthesized {inner : List (List Char)} {e : SpelledExpr}
    (h : E (written (inner ++ [')'] :: ts)) e (written ([')'] :: ts))) :
    primary E (written (inParentheses inner ++ ts)) e (written ts) := by
  have htokens : inParentheses inner ++ ts = ['('] :: (inner ++ [')'] :: ts) := by
    simp [inParentheses]
  have hopen := sign_written (s := "(") (by decide) (by decide) (inner ++ [')'] :: ts)
  have hclose := sign_written (s := ")") (by decide) (by decide) ts
  rw [htokens]
  exact .inr (.inr (.inr ⟨_, _, hopen, e, _, h, _, _, hclose, rfl, rfl⟩))

end Operators

/-! ### Printed expressions -/

/-- The spelled expression as it is taken at its place. -/
def placed (truth : Bool) (s : SpelledExpr) : SpelledExpr := if truth then s.asCondition else s

@[simp]
theorem placed_false (s : SpelledExpr) : placed false s = s := rfl

@[simp]
theorem placed_true (s : SpelledExpr) : placed true s = s.asCondition := rfl

/-- Only a literal is taken in another way where a truth value is meant. -/
theorem placed_of_ne_literal {s : SpelledExpr} (h : ∀ pos spelling, s ≠ .literal pos spelling)
    (truth : Bool) : placed truth s = s := by
  cases truth with
  | false => rfl
  | true =>
    cases s with
    | literal pos spelling => exact absurd rfl (h pos spelling)
    | _ => rfl

variable [RegexEngine]

/-- The tokens of the expression are read as a spelling of it, whatever follows them. -/
def IsRead (truth : Bool) (E : Reading SpelledExpr) (e : Expr) : Prop :=
  ∀ ts, ∃ s, E (written (Expr.tokens e ++ ts)) s (written ts) ∧
    SpelledExpr.decode (placed truth s) = .ok e.unplaced

section Printed

variable {E : Reading SpelledExpr} {truth : Bool}

theorem IsRead.alternatives {e : Expr} (h : IsRead truth (primary E) e) :
    IsRead truth (alternatives E) e := by
  intro ts
  obtain ⟨s, hs, hdecode⟩ := h ts
  exact ⟨s, alternatives_of_negation (negation_of_primary hs), hdecode⟩

omit [RegexEngine] in
/-- Things that are printed one after the other are read one after the other. -/
theorem star_written {α β γ ε : Type} {R : Reading β} {tokens : α → List (List Char)}
    {decode : β → Except ε γ} {view : α → γ} {as : List α}
    (h : ∀ a ∈ as, ∀ ts, ∃ b, R (written (tokens a ++ ts)) b (written ts) ∧
      decode b = .ok (view a)) (ts : List (List Char)) :
    ∃ bs, star R (written (as.flatMap tokens ++ ts)) bs (written ts) ∧
      bs.mapM decode = .ok (as.map view) := by
  induction as with
  | nil => exact ⟨[], .nil, rfl⟩
  | cons a as ih =>
    obtain ⟨ha, has⟩ := List.forall_mem_cons.mp h
    obtain ⟨bs, hbs, hdecodes⟩ := ih has
    obtain ⟨b, hb, hdecode⟩ := ha (as.flatMap tokens ++ ts)
    have htokens : (a :: as).flatMap tokens ++ ts = tokens a ++ (as.flatMap tokens ++ ts) := by
      simp
    exact ⟨b :: bs, htokens ▸ .cons hb hbs, by simp [List.mapM_cons, hdecode, hdecodes]⟩

theorem argTokens_eq (args : List Expr) :
    argTokens args = args.flatMap fun arg => [','] :: Expr.tokens arg := by
  induction args with
  | nil => rfl
  | cons arg args ih => rw [argTokens, ih, List.flatMap_cons, List.cons_append]

/-- Printed arguments are read behind their commas. -/
theorem commas_written {args : List Expr} (h : ∀ arg ∈ args, IsRead false E arg)
    (ts : List (List Char)) :
    ∃ ss, star (do let _ ← sign ","; E) (written (argTokens args ++ ts)) ss (written ts) ∧
      decodeArgs ss = .ok (unplacedArgs args) := by
  rw [argTokens_eq, unplacedArgs_eq]
  simp only [decodeArgs_eq]
  refine star_written (fun arg harg ts => ?_) ts
  obtain ⟨s, hs, hdecode⟩ := h arg harg ts
  have hcomma := sign_written (s := ",") (by decide) (by decide) (Expr.tokens arg ++ ts)
  exact ⟨s, ⟨_, _, hcomma, hs⟩, hdecode⟩

/-- Printed arguments are read between their parentheses. -/
theorem arguments_written {args : List Expr} (h : ∀ arg ∈ args, IsRead false E arg)
    (ts : List (List Char)) :
    ∃ ss, arguments E (written (inParentheses (argTokens args).tail ++ ts)) ss (written ts) ∧
      decodeArgs ss = .ok (unplacedArgs args) := by
  have htokens : inParentheses (argTokens args).tail ++ ts =
      ['('] :: ((argTokens args).tail ++ [')'] :: ts) := by
    simp [inParentheses]
  have hopen := sign_written (s := "(") (by decide) (by decide)
    ((argTokens args).tail ++ [')'] :: ts)
  have hclose := sign_written (s := ")") (by decide) (by decide) ts
  rw [htokens]
  cases args with
  | nil =>
    exact ⟨[], ⟨_, _, hopen, none, _, optional_iff.mpr (.inr ⟨rfl, rfl⟩), _, _, hclose, rfl, rfl⟩,
      rfl⟩
  | cons arg args =>
    obtain ⟨harg, hargs⟩ := List.forall_mem_cons.mp h
    obtain ⟨ss, hss, hdecodes⟩ := commas_written hargs ([')'] :: ts)
    obtain ⟨s, hs, hdecode⟩ := harg (argTokens args ++ [')'] :: ts)
    have htail : (argTokens (arg :: args)).tail ++ [')'] :: ts =
        Expr.tokens arg ++ (argTokens args ++ [')'] :: ts) := by
      simp [argTokens]
    have hseparated : separated E (written ((argTokens (arg :: args)).tail ++ [')'] :: ts)) (s :: ss)
        (written ([')'] :: ts)) :=
      htail ▸ ⟨s, _, hs, ss, _, hss, rfl, rfl⟩
    refine ⟨s :: ss, ⟨_, _, hopen, some (s :: ss), _, optional_iff.mpr (.inl ⟨_, hseparated, rfl⟩),
      _, _, hclose, rfl, rfl⟩, ?_⟩
    change SpelledExpr.decode s = _ at hdecode
    simp [decodeArgs, hdecode, hdecodes, unplacedArgs]

/-- A printed call is read as a call. -/
theorem call_written {function : String} {args : List Expr} (hfunction : IsBareName function)
    (h : ∀ arg ∈ args, IsRead false E arg) (pos : Position) (ts : List (List Char)) :
    ∃ ss, call E (written (Expr.tokens (.call pos function args) ++ ts)) (function, ss)
        (written ts) ∧
      decodeArgs ss = .ok (unplacedArgs args) := by
  obtain ⟨ss, hss, hdecode⟩ := arguments_written h ts
  have hname := bareName_written hfunction (inParentheses (argTokens args).tail ++ ts)
  exact ⟨ss, ⟨_, _, hname, ss, _, hss, by rw [String.ofList_toList], rfl⟩, hdecode⟩

/-- Two printed operands with a sign between them are read, in parentheses, as the node that the
sign makes of them. -/
theorem IsRead.between {e left right : Expr} {inner : Bool} {t : List Char}
    (hl : IsRead inner (primary E) left) (hr : IsRead inner (primary E) right)
    (node : SpelledExpr → SpelledExpr → SpelledExpr)
    (htokens : Expr.tokens e = inParentheses (Expr.tokens left ++ t :: Expr.tokens right))
    (hnode : ∀ ⦃cs ts rest l r⦄, primary E cs l (written (t :: ts)) →
      primary E (written ts) r rest → Language.alternatives E cs (node l r) rest)
    (hdecode : ∀ ⦃l r⦄, SpelledExpr.decode (placed inner l) = .ok left.unplaced →
      SpelledExpr.decode (placed inner r) = .ok right.unplaced →
      SpelledExpr.decode (placed truth (node l r)) = .ok e.unplaced) :
    IsRead truth (primary (Language.alternatives E)) e := by
  intro ts
  obtain ⟨r, hr, hrdecode⟩ := hr ([')'] :: ts)
  obtain ⟨l, hl, hldecode⟩ := hl (t :: (Expr.tokens right ++ [')'] :: ts))
  refine ⟨node l r, ?_, hdecode hldecode hrdecode⟩
  rw [htokens]
  apply primary_parenthesized
  rw [List.append_assoc, List.cons_append]
  exact hnode hl hr

/-- A sign before a printed operand is read, in parentheses, as the node that the sign makes of it.
-/
theorem IsRead.behind {e operand : Expr} {inner : Bool} {t : List Char}
    (h : IsRead inner (primary E) operand) (node : SpelledExpr → SpelledExpr)
    (htokens : Expr.tokens e = inParentheses (t :: Expr.tokens operand))
    (hnode : ∀ ⦃ts rest s⦄, primary E (written ts) s rest →
      Language.alternatives E (written (t :: ts)) (node s) rest)
    (hdecode : ∀ ⦃s⦄, SpelledExpr.decode (placed inner s) = .ok operand.unplaced →
      SpelledExpr.decode (placed truth (node s)) = .ok e.unplaced) :
    IsRead truth (primary (Language.alternatives E)) e := by
  intro ts
  obtain ⟨s, hs, hsdecode⟩ := h ([')'] :: ts)
  refine ⟨node s, ?_, hdecode hsdecode⟩
  rw [htokens]
  exact primary_parenthesized (hnode hs)

/-! ### The nodes of an expression -/

section Nodes

variable {pos : Position} {left right operand : Expr}

theorem isRead_literal {value : Value} (h : value.IsSpellable)
    (hpattern : ¬ (truth = true ∧ value.isPattern = true)) :
    IsRead truth (primary E) (.literal pos value) := by
  intro ts
  obtain ⟨spelling, hread, hdecode⟩ := anyLiteral_written h ts
  rw [← LiteralSpelling.isPattern_of_decode hdecode] at hpattern
  have hplaced : placed truth (.literal default spelling) = .literal default spelling := by
    cases truth with
    | false => rfl
    | true =>
      have hspelling : spelling.isPattern = false := by simpa using hpattern
      simp [SpelledExpr.asCondition, hspelling]
  refine ⟨_, .inl hread, ?_⟩
  simp [hplaced, SpelledExpr.decode, hdecode, ExprOf.unplaced]

/-- A bare pattern is printed as its literal, and read as a bare pattern where a truth value is
meant. -/
theorem isRead_barePattern {pos' : Position} {value : Value} (h : value.IsSpellable)
    (hpattern : value.isPattern = true) :
    IsRead true (primary E) (.barePattern pos (.literal pos' value)) := by
  intro ts
  obtain ⟨spelling, hread, hdecode⟩ := anyLiteral_written h ts
  rw [← LiteralSpelling.isPattern_of_decode hdecode] at hpattern
  refine ⟨_, .inl hread, ?_⟩
  simp [SpelledExpr.asCondition, hpattern, SpelledExpr.decode, hdecode, ExprOf.unplaced]

theorem isRead_field (name : String) : IsRead truth (primary E) (.field pos name) := by
  intro ts
  obtain ⟨spelling, hread, hdecode⟩ := fieldName_written name ts
  refine ⟨.field default spelling, .inr (.inr (.inl (map_iff.mpr ⟨spelling, hread, rfl⟩))), ?_⟩
  simp [placed_of_ne_literal, SpelledExpr.decode, hdecode, ExprOf.unplaced]

theorem isRead_call {function : String} {args : List Expr} (hfunction : IsBareName function)
    (h : ∀ arg ∈ args, IsRead false E arg) :
    IsRead truth (primary E) (.call pos function args) := by
  intro ts
  obtain ⟨ss, hcall, hdecode⟩ := call_written hfunction h pos ts
  refine ⟨.call default function ss, .inr (.inl (map_iff.mpr ⟨_, hcall, rfl⟩)), ?_⟩
  simp [placed_of_ne_literal, SpelledExpr.decode, hdecode, ExprOf.unplaced]

theorem IsRead.not (h : IsRead true (primary E) operand) :
    IsRead truth (primary (Language.alternatives E)) (.unary pos .not operand) := by
  refine h.behind (fun s => .unary default .not s.asCondition) rfl
    (fun _ _ _ hs => alternatives_of_negation (negation_not hs)) fun s hs => ?_
  rw [placed_true] at hs
  simp [placed_of_ne_literal, SpelledExpr.decode, hs, ExprOf.unplaced]

theorem IsRead.sign {op : UnaryOp} (hop : op ≠ .not) (h : IsRead false (primary E) operand) :
    IsRead truth (primary (Language.alternatives E)) (.unary pos op operand) := by
  refine h.behind (.unary default op) rfl (fun _ _ _ hs => alternatives_of_sum
    (binaryLevel_of_operand (binaryLevel_of_operand (unary_sign hop hs)))) fun s hs => ?_
  rw [placed_false] at hs
  simp [placed_of_ne_literal, SpelledExpr.decode, hs, ExprOf.unplaced]

theorem IsRead.binary (op : BinaryOp) (hl : IsRead false (primary E) left)
    (hr : IsRead false (primary E) right) :
    IsRead truth (primary (Language.alternatives E)) (.binary pos op left right) := by
  refine hl.between hr (.binary default op) rfl
    (fun _ _ _ _ _ hl hr => alternatives_of_sum (sum_binary op hl hr)) fun l r hl hr => ?_
  rw [placed_false] at hl hr
  simp [placed_of_ne_literal, SpelledExpr.decode, hl, hr, ExprOf.unplaced]

theorem IsRead.logical (op : LogicalOp) (hl : IsRead true (primary E) left)
    (hr : IsRead true (primary E) right) :
    IsRead truth (primary (Language.alternatives E)) (.logical pos op left right) := by
  refine hl.between hr (fun l r => .logical default op l.asCondition r.asCondition) rfl
    (fun _ _ _ _ _ hl hr => alternatives_logical op hl hr) fun l r hl hr => ?_
  rw [placed_true] at hl hr
  simp [placed_of_ne_literal, SpelledExpr.decode, hl, hr, ExprOf.unplaced]

theorem IsRead.comparison (op : CompareOp) (hl : IsRead false (primary E) left)
    (hr : IsRead false (primary E) right) :
    IsRead truth (primary (Language.alternatives E)) (.comparison pos op left right) := by
  refine hl.between hr (.comparison default op) rfl (fun _ _ _ _ _ hl hr =>
    alternatives_of_negation (negation_of_comparison (comparison_comparison op hl hr)))
    fun l r hl hr => ?_
  rw [placed_false] at hl hr
  simp [placed_of_ne_literal, SpelledExpr.decode, hl, hr, ExprOf.unplaced]

theorem IsRead.pattern (hl : IsRead false (primary E) left)
    (hr : IsRead false (primary E) right) :
    IsRead truth (primary (Language.alternatives E)) (.pattern pos left right) := by
  refine hl.between hr (.pattern default) rfl (fun _ _ _ _ _ hl hr =>
    alternatives_of_negation (negation_of_comparison (comparison_pattern hl hr)))
    fun l r hl hr => ?_
  rw [placed_false] at hl hr
  simp [placed_of_ne_literal, SpelledExpr.decode, hl, hr, ExprOf.unplaced]

end Nodes

theorem sizeOf_lt_of_mem_children {e c : Expr} (h : c ∈ e.children) : sizeOf c < sizeOf e := by
  cases e with
  | literal pos value => cases h
  | field pos name => cases h
  | call pos function args =>
    have hsize : sizeOf c < sizeOf args := List.sizeOf_lt_of_mem h
    simp only [ExprOf.call.sizeOf_spec]
    omega
  | unary pos op operand =>
    obtain rfl := List.mem_singleton.mp h
    simp only [ExprOf.unary.sizeOf_spec]
    omega
  | barePattern pos needle =>
    obtain rfl := List.mem_singleton.mp h
    simp only [ExprOf.barePattern.sizeOf_spec]
    omega
  | binary pos op left right | logical pos op left right | comparison pos op left right
  | pattern pos left right =>
    have hsize : sizeOf c ≤ sizeOf left + sizeOf right := by
      rcases List.mem_pair.mp h with rfl | rfl
      · exact Nat.le_add_right _ _
      · exact Nat.le_add_left _ _
    simp only [ExprOf.binary.sizeOf_spec, ExprOf.logical.sizeOf_spec, ExprOf.comparison.sizeOf_spec,
      ExprOf.pattern.sizeOf_spec]
    omega

/-- Below a node the nesting is less deep by one. -/
theorem exists_depth_of_children {e : Expr} {depth : Nat} (hdepth : sizeOf e ≤ depth) :
    ∃ d, depth = d + 1 ∧ ∀ c ∈ e.children, sizeOf c ≤ d := by
  have hpos : 0 < sizeOf e := by cases e <;> simp
  refine ⟨depth - 1, by omega, fun c hc => ?_⟩
  have hsize := sizeOf_lt_of_mem_children hc
  omega

/-- Every well-formed expression is read again, if the nesting that is allowed is as deep as it. -/
theorem isRead_of_isWellFormed {e : Expr} (h : Expr.IsWellFormed truth e) {depth : Nat}
    (hdepth : sizeOf e ≤ depth) : IsRead truth (primary (expression depth)) e := by
  -- The parentheses around a node take one level off the depth, and what is left is enough for its
  -- children.
  induction e using ExprOf.inductionOn generalizing truth depth with
  | literal pos value => exact isRead_literal h.1 h.2
  | field pos name => exact isRead_field name
  | call pos function args ih =>
    obtain ⟨hfunction, hargs⟩ := h
    obtain ⟨d, rfl, hsize⟩ := exists_depth_of_children hdepth
    refine isRead_call hfunction fun arg harg => ?_
    exact (ih arg harg (argsWellFormed_iff.mp hargs arg harg) (hsize arg harg)).alternatives
  | unary pos op operand ih =>
    obtain ⟨d, rfl, hsize⟩ := exists_depth_of_children hdepth
    have hoperand : IsRead (op = .not) (primary (expression d)) operand :=
      ih h (hsize operand (by simp [ExprOf.children]))
    by_cases hop : op = .not
    · subst hop
      exact hoperand.not
    · rw [decide_eq_false hop] at hoperand
      exact hoperand.sign hop
  | binary pos op left right ihl ihr =>
    obtain ⟨d, rfl, hsize⟩ := exists_depth_of_children hdepth
    exact .binary op (ihl h.1 (hsize left (by simp [ExprOf.children])))
      (ihr h.2 (hsize right (by simp [ExprOf.children])))
  | logical pos op left right ihl ihr =>
    obtain ⟨d, rfl, hsize⟩ := exists_depth_of_children hdepth
    exact .logical op (ihl h.1 (hsize left (by simp [ExprOf.children])))
      (ihr h.2 (hsize right (by simp [ExprOf.children])))
  | comparison pos op left right ihl ihr =>
    obtain ⟨d, rfl, hsize⟩ := exists_depth_of_children hdepth
    exact .comparison op (ihl h.1 (hsize left (by simp [ExprOf.children])))
      (ihr h.2 (hsize right (by simp [ExprOf.children])))
  | pattern pos left right ihl ihr =>
    obtain ⟨d, rfl, hsize⟩ := exists_depth_of_children hdepth
    exact .pattern (ihl h.1 (hsize left (by simp [ExprOf.children])))
      (ihr h.2 (hsize right (by simp [ExprOf.children])))
  | barePattern pos needle =>
    cases needle with
    | literal pos' value =>
      obtain ⟨rfl, hvalue, hpattern⟩ := h
      exact isRead_barePattern hvalue hpattern
    | _ => exact h.elim

/-- Every well-formed expression is read again as an expression. -/
theorem isRead_expression {e : Expr} (h : Expr.IsWellFormed truth e) {depth : Nat}
    (hdepth : sizeOf e < depth) : IsRead truth (expression depth) e := by
  obtain ⟨depth, rfl⟩ : ∃ d, depth = d + 1 := ⟨depth - 1, by omega⟩
  have hread : IsRead truth (primary (expression depth)) e :=
    isRead_of_isWellFormed h (by omega)
  exact hread.alternatives

end Printed

end Language

end RecordScript
