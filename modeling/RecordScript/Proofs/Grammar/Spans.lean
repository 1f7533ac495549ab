import RecordScript.Proofs.Grammar.Tokens

/-!
# Expressions in a text

An expression spans a part of the text, from one cursor to another. Its leaves are the leaves among
the tokens of this part, in the same order. Its nodes stand inside the part: a node with a token of
its own where this token is, other nodes at the front of the part.
-/

namespace RecordScript

/-- The expressions span the text between the cursors, one after the other, with plain tokens
before, between and behind them. -/
inductive Spans : Cursor → List SpelledExpr → Cursor → Prop
  | tokens {c c' : Cursor} (plain : Tokens c [] c') : Spans c [] c'
  | append {c mid c' : Cursor} {es es' : List SpelledExpr} (first : Spans c es mid)
      (second : Spans mid es' c') : Spans c (es ++ es') c'
  | literal {c c' : Cursor} {taken behind : List Char} {spelling : LiteralSpelling}
      (token : Leaf.IsWritten (.literal spelling) taken behind) (step : c.Steps taken behind c') :
      Spans c [.literal c.position spelling] c'
  | field {c c' : Cursor} {taken behind : List Char} {spelling : NameSpelling}
      (token : Leaf.IsWritten (.name spelling) taken behind) (step : c.Steps taken behind c') :
      Spans c [.field c.position spelling] c'
  | call {c mid c' : Cursor} {function : String} {behind : List Char} {args : List SpelledExpr}
      (token : Token.IsName function.toList behind) (step : c.Steps function.toList behind mid)
      (between : Spans mid args c') : Spans c [.call c.position function args] c'
  | unary {c mid c' : Cursor} {op : UnaryOp} {behind : List Char} {operand : SpelledExpr}
      (step : c.Steps op.sign.toList behind mid) (below : Spans mid [operand] c') :
      Spans c [.unary c.position op operand] c'
  | binary {c mid mid' c' : Cursor} {op : BinaryOp} {behind : List Char} {left right : SpelledExpr}
      (first : Spans c [left] mid) (step : mid.Steps op.sign.toList behind mid')
      (second : Spans mid' [right] c') : Spans c [.binary mid.position op left right] c'
  | logical {c c' : Cursor} {left right : SpelledExpr} (op : LogicalOp)
      (below : Spans c [left, right] c') : Spans c [.logical c.position op left right] c'
  | comparison {c c' : Cursor} {left right : SpelledExpr} (op : CompareOp)
      (below : Spans c [left, right] c') : Spans c [.comparison c.position op left right] c'
  | pattern {c c' : Cursor} {left right : SpelledExpr} (below : Spans c [left, right] c') :
      Spans c [.pattern c.position left right] c'
  | barePattern {c c' : Cursor} {pos : Position} {spelling : LiteralSpelling}
      (below : Spans c [.literal pos spelling] c') :
      Spans c [.barePattern pos (.literal pos spelling)] c'

/-! ### Signs of operators -/

theorem UnaryOp.isPlain_sign (op : UnaryOp) (behind : List Char) :
    Token.IsPlain op.sign.toList behind :=
  .sign (by cases op <;> decide) behind

theorem BinaryOp.isPlain_sign (op : BinaryOp) (behind : List Char) :
    Token.IsPlain op.sign.toList behind :=
  .sign (by cases op <;> decide) behind

/-! ### Leaves -/

theorem SpelledExpr.leaves_node (e : SpelledExpr) (h : leaf? e = none) :
    leaves e = e.children.flatMap leaves := by
  rw [leaves_eq, h]
  rfl

/-- The leaves of the expressions are the leaves among the tokens that they span. -/
theorem Spans.tokens_leaves {c c' : Cursor} {es : List SpelledExpr} (h : Spans c es c') :
    Tokens c (es.flatMap SpelledExpr.leaves) c' := by
  induction h with
  | tokens plain => exact plain
  | append _ _ ih ih' =>
    rw [List.flatMap_append]
    exact ih.append ih'
  | literal token step => exact .of_leaf token step
  | field token step => exact .of_leaf token step
  | call token step _ ih =>
    rw [List.flatMap_singleton, SpelledExpr.leaves_node _ rfl]
    exact (Tokens.of_plain (.name token) step).append ih
  | unary step _ ih =>
    rw [List.flatMap_singleton, SpelledExpr.leaves_node _ rfl]
    exact (Tokens.of_plain (UnaryOp.isPlain_sign _ _) step).append ih
  | binary _ step _ ih ih' =>
    rw [List.flatMap_singleton, SpelledExpr.leaves_node _ rfl]
    simpa [ExprOf.children] using
      (ih.append (Tokens.of_plain (BinaryOp.isPlain_sign _ _) step)).append ih'
  | logical _ _ ih
  | comparison _ _ ih
  | pattern _ ih
  | barePattern _ ih =>
    rw [List.flatMap_singleton, SpelledExpr.leaves_node _ rfl]
    exact ih

/-! ### Positions of nodes -/

namespace Position

/-- The position is looked up in a part of the text of the source, from the first offset on up to
the second. -/
def IsWithin (source : String) (text : List Char) (p : Position) (m n : Nat) : Prop :=
  p.source = source ∧ ∃ k, p.offset? text = some k ∧ m ≤ k ∧ k < n

variable {source : String} {text : List Char} {p q : Position} {m m' n n' : Nat}

theorem IsWithin.mono (h : p.IsWithin source text m n) (hm : m' ≤ m) (hn : n ≤ n') :
    p.IsWithin source text m' n' := by
  obtain ⟨hsource, k, hk, hmk, hkn⟩ := h
  exact ⟨hsource, k, hk, hm.trans hmk, hkn.trans_le hn⟩

theorem IsWithin.precedes (hp : p.IsWithin source text m n) (hq : q.IsWithin source text m' n')
    (h : n ≤ m') : p.Precedes text q := by
  obtain ⟨-, k, hk, -, hkn⟩ := hp
  obtain ⟨-, l, hl, hml, -⟩ := hq
  exact ⟨k, l, hk, hl, hkn.trans_le (h.trans hml)⟩

theorem IsWithin.notBehind (hq : q.IsWithin source text m n) (hp : p.offset? text = some m) :
    p.NotBehind text q := by
  obtain ⟨-, k, hk, hmk, -⟩ := hq
  exact ⟨m, k, hp, hk, hmk⟩

end Position

namespace ExprOf

variable {Lit Name : Type}

/-- The node points at its place in the text. For literals and field names this is told by `lit` and
`name`; calls, signs and operators are found at the position. The other nodes have no token of their
own. -/
def PointsInto (text : List Char) (lit : Position → Lit → Prop) (name : Position → Name → Prop) :
    ExprOf Lit Name → Prop
  | .literal pos value => lit pos value
  | .field pos value => name pos value
  | .call pos function _ =>
    ∃ behind, Token.IsName function.toList behind ∧ pos.Marks text function.toList behind
  | .unary pos op operand =>
    (∃ behind, pos.Marks text op.sign.toList behind) ∧
      ∀ x ∈ operand.nodes, pos.Precedes text x.position
  | .binary pos op left right =>
    (∃ behind, pos.Marks text op.sign.toList behind) ∧
      (∀ x ∈ left.nodes, x.position.Precedes text pos) ∧
      ∀ x ∈ right.nodes, pos.Precedes text x.position
  | .logical pos _ left _ | .comparison pos _ left _ | .pattern pos left _ =>
    ∀ x ∈ left.nodes, pos.NotBehind text x.position
  | .barePattern pos needle => pos = needle.position

/-- What holds of a node and of all nodes below it, for a node alone in its list. -/
theorem forall_nodes_singleton {P : ExprOf Lit Name → Prop} {e : ExprOf Lit Name} (self : P e)
    (below : ∀ c ∈ e.children, ∀ x ∈ c.nodes, P x) : ∀ e' ∈ [e], ∀ x ∈ e'.nodes, P x :=
  List.forall_mem_singleton.mpr (forall_nodes_iff.mpr ⟨self, below⟩)

end ExprOf

namespace Spans

variable {source : String} {text : List Char} {c c' : Cursor} {es : List SpelledExpr}

theorem offset_le (h : Spans c es c') : c.offset ≤ c'.offset := h.tokens_leaves.offset_le

theorem isReached (h : Spans c es c') (hc : c.IsReached source text) : c'.IsReached source text :=
  hc.tokens h.tokens_leaves

theorem isWithin_step {taken behind : List Char} (hc : c.IsReached source text)
    (step : c.Steps taken behind c') (htaken : Token.StartsInSight taken) {n : Nat}
    (hn : c'.offset ≤ n) : c.position.IsWithin source text c.offset n := by
  obtain ⟨hlt, hsight⟩ := step.inSight htaken
  exact ⟨hc.source_eq, c.offset, hc.offset?_position hsight, Nat.le_refl _, hlt.trans_le hn⟩

/-- The part that expressions span starts with a token if a node stands in it. -/
theorem offset?_front (h : Spans c es c') (hc : c.IsReached source text) {p : Position}
    (hp : p.IsWithin source text c.offset c'.offset) : c.position.offset? text = some c.offset := by
  obtain ⟨-, k, -, hck, hkc⟩ := hp
  exact hc.offset?_position (h.tokens_leaves.inSight (hck.trans_lt hkc))

theorem isWithin_front (h : Spans c es c') (hc : c.IsReached source text) {p : Position}
    (hp : p.IsWithin source text c.offset c'.offset) :
    c.position.IsWithin source text c.offset c'.offset := by
  have hfront := h.offset?_front hc hp
  obtain ⟨-, k, -, hck, hkc⟩ := hp
  exact ⟨hc.source_eq, c.offset, hfront, Nat.le_refl _, hck.trans_lt hkc⟩

/-- The nodes of the expressions stand in the part of the text that they span. -/
theorem isWithin (h : Spans c es c') (hc : c.IsReached source text) :
    ∀ e ∈ es, ∀ x ∈ e.nodes, x.position.IsWithin source text c.offset c'.offset := by
  induction h with
  | tokens => simp
  | append first second ih ih' =>
    refine List.forall_mem_append.mpr ⟨fun e he x hx => ?_, fun e he x hx => ?_⟩
    · exact (ih hc e he x hx).mono (Nat.le_refl _) second.offset_le
    · exact (ih' (first.isReached hc) e he x hx).mono first.offset_le (Nat.le_refl _)
  | literal token step
  | field token step =>
    refine ExprOf.forall_nodes_singleton ?_ (by simp [ExprOf.children])
    exact isWithin_step hc step token.startsInSight (Nat.le_refl _)
  | call token step between ih =>
    have hmid := hc.tokens (.of_plain (.name token) step)
    have hsight := token.toIsWord.startsInSight
    refine ExprOf.forall_nodes_singleton ?_ fun e he x hx => ?_
    · exact isWithin_step hc step hsight between.offset_le
    · exact (ih hmid e he x hx).mono (step.inSight hsight).1.le (Nat.le_refl _)
  | @unary c mid c' op behind operand step below ih =>
    have hplain := UnaryOp.isPlain_sign op behind
    have hmid := hc.tokens (.of_plain hplain step)
    refine ExprOf.forall_nodes_singleton ?_ fun e he x hx => ?_
    · exact isWithin_step hc step hplain.startsInSight below.offset_le
    · exact (ih hmid e he x hx).mono (step.inSight hplain.startsInSight).1.le (Nat.le_refl _)
  | @binary c mid mid' c' op behind left right first step second ih ih' =>
    have hplain := BinaryOp.isPlain_sign op behind
    have hmid := first.isReached hc
    have hlt := (step.inSight hplain.startsInSight).1
    refine ExprOf.forall_nodes_singleton ?_ (List.forall_mem_cons.mpr ⟨fun x hx => ?_,
      fun e he x hx => ?_⟩)
    · exact (isWithin_step hmid step hplain.startsInSight second.offset_le).mono first.offset_le
        (Nat.le_refl _)
    · exact (ih hc left List.mem_cons_self x hx).mono (Nat.le_refl _)
        (hlt.le.trans second.offset_le)
    · exact (ih' (hmid.tokens (.of_plain hplain step)) e he x hx).mono
        (first.offset_le.trans hlt.le) (Nat.le_refl _)
  | @logical c c' left right op below ih
  | @comparison c c' left right op below ih
  | @pattern c c' left right below ih =>
    -- The node has no token of its own; a node of its left operand shows that some token is there.
    refine ExprOf.forall_nodes_singleton ?_ (ih hc)
    exact below.isWithin_front hc (ih hc left List.mem_cons_self left left.self_mem_nodes)
  | @barePattern c c' pos spelling _ ih =>
    have hpattern := ih hc (.literal pos spelling) List.mem_cons_self _ (ExprOf.self_mem_nodes _)
    exact ExprOf.forall_nodes_singleton hpattern (ih hc)

/-- The nodes of the expressions point at their places. -/
theorem pointsInto (h : Spans c es c') (hc : c.IsReached source text) :
    ∀ e ∈ es, ∀ x ∈ e.nodes, x.PointsInto text (fun p s => (Leaf.literal s).StandsAt text p)
      fun p s => (Leaf.name s).StandsAt text p := by
  induction h with
  | tokens => simp
  | append first _ ih ih' =>
    exact List.forall_mem_append.mpr ⟨ih hc, ih' (first.isReached hc)⟩
  | literal token step
  | field token step =>
    refine ExprOf.forall_nodes_singleton ?_ (by simp [ExprOf.children])
    exact ⟨_, _, token, hc.marks step token.startsInSight⟩
  | call token step _ ih =>
    refine ExprOf.forall_nodes_singleton ?_ (ih (hc.tokens (.of_plain (.name token) step)))
    exact ⟨_, token, hc.marks step token.toIsWord.startsInSight⟩
  | @unary c mid c' op behind operand step below ih =>
    have hplain := UnaryOp.isPlain_sign op behind
    have hmid := hc.tokens (.of_plain hplain step)
    refine ExprOf.forall_nodes_singleton ⟨⟨_, hc.marks step hplain.startsInSight⟩, fun x hx => ?_⟩
      (ih hmid)
    have hpos := isWithin_step hc step hplain.startsInSight (Nat.le_refl _)
    exact hpos.precedes (below.isWithin hmid operand List.mem_cons_self x hx) (Nat.le_refl _)
  | @binary c mid mid' c' op behind left right first step second ih ih' =>
    have hplain := BinaryOp.isPlain_sign op behind
    have hmid := first.isReached hc
    have hmid' := hmid.tokens (.of_plain hplain step)
    have hpos := isWithin_step hmid step hplain.startsInSight (Nat.le_refl _)
    refine ExprOf.forall_nodes_singleton
      ⟨⟨_, hmid.marks step hplain.startsInSight⟩, fun x hx => ?_, fun x hx => ?_⟩
      (List.forall_mem_cons.mpr ⟨ih hc left List.mem_cons_self, ih' hmid'⟩)
    · exact (first.isWithin hc left List.mem_cons_self x hx).precedes hpos (Nat.le_refl _)
    · exact hpos.precedes (second.isWithin hmid' right List.mem_cons_self x hx) (Nat.le_refl _)
  | @logical c c' left right op below ih
  | @comparison c c' left right op below ih
  | @pattern c c' left right below ih =>
    refine ExprOf.forall_nodes_singleton (fun x hx => ?_) (ih hc)
    have hwithin := below.isWithin hc left List.mem_cons_self x hx
    exact hwithin.notBehind (below.offset?_front hc hwithin)
  | barePattern _ ih => exact ExprOf.forall_nodes_singleton rfl (ih hc)

end Spans

end RecordScript
