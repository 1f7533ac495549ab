import Mathlib.Logic.Function.Iterate
import RecordScript.Proofs.Grammar.Operators
import RecordScript.Proofs.Layout.Phrase
import RecordScript.Proofs.Printing.Expression

/-!
# Reading phrases

What is read along the tokens of a phrase is what the phrase stands for. Where a phrase nests to the
left, the language repeats an operand; parentheses and bars, whether or not they are put in, leave
no node.
-/

namespace RecordScript

open Reading

namespace Language

/-- Conjunctions between bars, without a bar before the first. -/
def disjunction (E : Reading SpelledExpr) : Reading SpelledExpr := do
  let first ← conjunction E
  let others ← star (do let _ ← sign "|"; conjunction E)
  return Grammar.joinLogical .or default first others

theorem alternatives_iff {E : Reading SpelledExpr} {cs rest : List Char} {e : SpelledExpr} :
    alternatives E cs e rest ↔
      ∃ bar mid, optional (sign "|") cs bar mid ∧ disjunction E mid e rest := Iff.rfl

end Language

namespace Level

open Language

/-- How the language reads expressions of a kind. -/
def reading (E : Reading SpelledExpr) : Level → Reading SpelledExpr
  | primary => Language.primary E
  | signed => Language.unary E
  | product => Language.product E
  | sum => Language.sum E
  | comparison => Language.comparison E
  | negation => Language.negation E
  | conjunction => Language.conjunction E
  | disjunction => Language.disjunction E
  | complete => Language.alternatives E

variable {E : Reading SpelledExpr} {cs mid mid' rest : List Char} {e l r : SpelledExpr}

theorem reading_next (level : Level) (h : level.reading E cs e rest) :
    level.next.reading E cs e rest := by
  cases level with
  | primary => exact unary_of_primary h
  | signed | product => exact binaryLevel_of_operand h
  | sum => exact comparison_of_sum h
  | comparison => exact negation_of_comparison h
  | negation => exact conjunction_of_negation h
  | conjunction => exact ⟨e, rest, h, [], rest, .nil, rfl, rfl⟩
  | disjunction => exact ⟨none, cs, optional_iff.mpr (.inr ⟨rfl, rfl⟩), h⟩
  | complete => exact h

theorem reading_iterate (n : Nat) (level : Level) (h : level.reading E cs e rest) :
    (next^[n] level).reading E cs e rest := by
  induction n generalizing level with
  | zero => exact h
  | succ n ih => exact ih level.next (reading_next level h)

/-- The number of kinds that are tighter. -/
def rank : Level → Nat
  | primary => 0
  | signed => 1
  | product => 2
  | sum => 3
  | comparison => 4
  | negation => 5
  | conjunction => 6
  | disjunction => 7
  | complete => 8

theorem reading_of_primary (level : Level) (h : Language.primary E cs e rest) :
    level.reading E cs e rest := by
  have hrank : next^[level.rank] primary = level := by cases level <;> rfl
  have hlevel := reading_iterate level.rank primary h
  rwa [hrank] at hlevel

theorem alternatives_of_reading (level : Level) (h : level.reading E cs e rest) :
    Language.alternatives E cs e rest := by
  have hcomplete : next^[8] level = complete := by cases level <;> rfl
  have hlevel := reading_iterate 8 level h
  rwa [hcomplete] at hlevel

end Level

namespace Language

/-! ### Operators behind a reading -/

section Operators

variable {E : Reading SpelledExpr} {cs mid mid' rest taken : List Char} {e l r : SpelledExpr}

theorem star_concat {α : Type} {R : Reading α} {as : List α} {a : α} (has : star R cs as mid)
    (ha : R mid a rest) : star R cs (as ++ [a]) rest :=
  star_append has (.cons ha .nil)

theorem binaryLevel_concat {signs : List String} {operand : Reading SpelledExpr}
    (hl : binaryLevel signs operand cs l mid) (hop : token (Token.anySign signs) mid taken mid')
    (hr : operand mid' r rest) :
    binaryLevel signs operand cs (.binary default (Grammar.binaryOp taken) l r) rest := by
  obtain ⟨first, behind, hfirst, others, _, hothers, rfl, rfl⟩ := hl
  refine ⟨first, behind, hfirst, others ++ [(Grammar.binaryOp taken, r)], rest,
    star_concat hothers ⟨_, mid', map_iff.mpr ⟨taken, hop, rfl⟩, r, rest, hr, rfl, rfl⟩, ?_, rfl⟩
  rw [List.foldl_append]
  rfl

theorem joinLogical_concat (op : LogicalOp) (first : SpelledExpr) (others : List SpelledExpr)
    (r : SpelledExpr) :
    Grammar.joinLogical op default first (others ++ [r]) =
      .logical default op (Grammar.joinLogical op default first others).asCondition
        r.asCondition := by
  rw [Grammar.joinLogical_eq_foldl, Grammar.joinLogical_eq_foldl, List.foldl_append]
  rfl

theorem conjunction_concat (hl : conjunction E cs l mid) (hop : sign "&" mid taken mid')
    (hr : negation E mid' r rest) :
    conjunction E cs (.logical default .and l.asCondition r.asCondition) rest := by
  obtain ⟨first, behind, hfirst, others, _, hothers, rfl, rfl⟩ := hl
  exact ⟨first, behind, hfirst, others ++ [r], rest, star_concat hothers ⟨taken, mid', hop, hr⟩,
    (joinLogical_concat .and first others r).symm, rfl⟩

theorem disjunction_concat (hl : disjunction E cs l mid) (hop : sign "|" mid taken mid')
    (hr : conjunction E mid' r rest) :
    disjunction E cs (.logical default .or l.asCondition r.asCondition) rest := by
  obtain ⟨first, behind, hfirst, others, _, hothers, rfl, rfl⟩ := hl
  exact ⟨first, behind, hfirst, others ++ [r], rest, star_concat hothers ⟨taken, mid', hop, hr⟩,
    (joinLogical_concat .or first others r).symm, rfl⟩

theorem comparison_of_operator (hl : sum E cs l mid)
    (hop : token (Token.anySign Token.compareSigns) mid taken mid') (hr : sum E mid' r rest) :
    comparison E cs (compareTree (Grammar.compareOp? taken) l r) rest :=
  ⟨l, mid, hl, some (Grammar.compareOp? taken, r), rest,
    optional_iff.mpr (.inl ⟨_, ⟨taken, mid', hop, r, rest, hr, rfl, rfl⟩, rfl⟩), rfl, rfl⟩

theorem negation_cons (hop : token (Token.anySign ["!"]) cs taken mid)
    (h : negation E mid e rest) : negation E cs (.unary default .not e.asCondition) rest := by
  obtain ⟨nots, behind, hnots, operand, _, hoperand, rfl, rfl⟩ := h
  exact ⟨() :: nots, behind, .cons (map_iff.mpr ⟨taken, hop, rfl⟩) hnots, operand, _, hoperand,
    rfl, rfl⟩

theorem unary_cons (hop : token (Token.anySign ["+", "-"]) cs taken mid)
    (h : unary E mid e rest) :
    unary E cs (.unary default (if taken = ['-'] then .minus else .plus) e) rest := by
  obtain ⟨ops, behind, hops, operand, _, hoperand, rfl, rfl⟩ := h
  exact ⟨_ :: ops, behind, .cons (map_iff.mpr ⟨taken, hop, rfl⟩) hops, operand, _, hoperand,
    rfl, rfl⟩

end Operators

end Language

open Language

section Lists

variable {ι α : Type} {R : Reading α} {tree : ι → α} {parts : List ι} {cs rest : List Char}

theorem star_of_reads (tokens : ι → List Lexeme)
    (h : ∀ i ∈ parts, ∀ ⦃cs rest⦄, Reads (tokens i) cs rest → R cs (tree i) rest)
    (hreads : Reads (parts.flatMap tokens) cs rest) : star R cs (parts.map tree) rest := by
  induction parts generalizing cs with
  | nil =>
    obtain rfl : rest = cs := hreads
    exact .nil
  | cons i parts ih =>
    obtain ⟨hi, hparts⟩ := List.forall_mem_cons.mp h
    obtain ⟨mid, hfirst, hothers⟩ := reads_append.mp hreads
    exact .cons (hi hfirst) (ih hparts hothers)

theorem length_le_length_flatMap (tokens : ι → List Lexeme) {i : ι} (h : i ∈ parts) :
    (tokens i).length ≤ (parts.flatMap tokens).length :=
  (List.infix_of_mem_flatten (List.mem_map_of_mem h)).length_le

end Lists

section Arguments

variable {E : Reading SpelledExpr} {cs rest : List Char} {args : List (Part SpelledExpr)}

theorem arguments_of_reads
    (h : ∀ arg ∈ args, ∀ ⦃cs rest⦄, Reads arg.1 cs rest → E cs arg.2 rest)
    (hreads : Reads (argumentTokens (args.map Prod.fst)) cs rest) :
    arguments E cs (args.map Prod.snd) rest := by
  obtain ⟨mid, hopen, hreads⟩ := hreads
  obtain ⟨mid', hargs, hclose⟩ := reads_append.mp hreads
  rw [reads_singleton] at hclose
  cases args with
  | nil =>
    obtain rfl : mid' = mid := hargs
    exact ⟨_, mid', hopen, none, mid', optional_iff.mpr (.inr ⟨rfl, rfl⟩), _, rest, hclose, rfl,
      rfl⟩
  | cons arg args =>
    obtain ⟨harg, hothers⟩ := List.forall_mem_cons.mp h
    rw [List.map_cons, separatedTokens] at hargs
    obtain ⟨behind, hfirst, hcommas⟩ := reads_append.mp hargs
    rw [List.flatMap_map] at hcommas
    have hstar : star (do let _ ← sign ","; E) behind (args.map Prod.snd) mid' :=
      star_of_reads (fun arg : Part SpelledExpr => .comma :: arg.1)
        (fun arg harg cs rest ⟨mid, hcomma, hreads⟩ =>
          ⟨_, mid, hcomma, hothers arg harg hreads⟩) hcommas
    exact ⟨_, mid, hopen, some (arg.2 :: args.map Prod.snd), mid',
      optional_iff.mpr (.inl ⟨_, ⟨arg.2, behind, harg hfirst, _, mid', hstar, rfl, rfl⟩, rfl⟩),
      _, rest, hclose, rfl, rfl⟩

theorem length_le_length_argumentTokens {arg : Part SpelledExpr} (h : arg ∈ args) :
    arg.1.length < (argumentTokens (args.map Prod.fst)).length := by
  have hseparated : arg.1.length ≤ (separatedTokens (args.map Prod.fst)).length := by
    cases args with
    | nil => cases h
    | cons first args =>
      rw [List.map_cons, separatedTokens, List.flatMap_map, List.length_append]
      rcases List.mem_cons.mp h with rfl | h
      · exact Nat.le_add_right _ _
      · have hlength : (Lexeme.comma :: arg.1).length ≤
            (args.flatMap fun arg => Lexeme.comma :: arg.1).length :=
          length_le_length_flatMap (fun arg : Part SpelledExpr => .comma :: arg.1) h
        rw [List.length_cons] at hlength
        exact Nat.le_add_left_of_le (Nat.le_of_succ_le hlength)
  simp only [argumentTokens, between, List.length_cons, List.length_append]
  omega

end Arguments

theorem fieldName_of_reads {t : Lexeme} {name : NameSpelling} (h : FieldToken t name)
    {cs rest : List Char} (htoken : token t.scan cs t.chars rest) : fieldName cs name rest := by
  cases h with
  | bare taken => exact .inl (map_iff.mpr ⟨taken, htoken, rfl⟩)
  | braced taken => exact .inr (map_iff.mpr ⟨taken, htoken, rfl⟩)

theorem anyLiteral_of_reads (kind : LiteralKind) {taken cs rest : List Char}
    (htoken : token (kind.lexeme taken).scan cs (kind.lexeme taken).chars rest) :
    anyLiteral cs (.literal default (kind.spelling taken)) rest := by
  cases kind with
  | boolean => exact .inl (map_iff.mpr ⟨taken, htoken, rfl⟩)
  | number => exact .inr (.inl (map_iff.mpr ⟨taken, htoken, rfl⟩))
  | quoted => exact .inr (.inr (.inl (map_iff.mpr ⟨taken, htoken, rfl⟩)))
  | regex => exact .inr (.inr (.inr (map_iff.mpr ⟨taken, htoken, rfl⟩)))

/-- Parentheses are read one level deeper. -/
theorem primary_of_between {inserted : Bool} {ts : List Lexeme} {e : SpelledExpr} {depth : Nat}
    (h : ∀ {cs rest}, Reads ts cs rest → alternatives (expression depth) cs e rest)
    {cs rest : List Char} (hreads : Reads (between inserted ts) cs rest) :
    primary (expression (depth + 1)) cs e rest := by
  obtain ⟨mid, hopen, hreads⟩ := hreads
  obtain ⟨mid', hts, hclose⟩ := reads_append.mp hreads
  exact .inr (.inr (.inr ⟨_, mid, hopen, e, mid', h hts, _, rest, reads_singleton.mp hclose, rfl,
    rfl⟩))

/-- An operator between two phrases, each with fewer tokens than the whole. -/
theorem exists_of_reads_operator {op : Lexeme} {ts us : List Lexeme} {depth : Nat}
    (hdepth : (ts ++ op :: us).length ≤ depth) {cs rest : List Char}
    (hreads : Reads (ts ++ op :: us) cs rest) :
    ts.length ≤ depth ∧ us.length ≤ depth ∧ ∃ mid mid', Reads ts cs mid ∧
      token op.scan mid op.chars mid' ∧ Reads us mid' rest := by
  obtain ⟨mid, hleft, mid', hop, hright⟩ := reads_append.mp hreads
  rw [List.length_append, List.length_cons] at hdepth
  exact ⟨by omega, by omega, mid, mid', hleft, hop, hright⟩

/-- Along the tokens of an expression its tree is read, which is nested no deeper than there are
tokens. -/
theorem Phrase.reading {level : Level} {ts : List Lexeme} {e : SpelledExpr}
    (h : Phrase level ts e) {depth : Nat} (hdepth : ts.length ≤ depth) {cs rest : List Char}
    (hreads : Reads ts cs rest) : level.reading (expression depth) cs e rest := by
  -- Only parentheses and arguments nest, and they have more tokens than what is inside them.
  induction h generalizing depth cs rest with
  | literal kind taken => exact .inl (anyLiteral_of_reads kind (reads_singleton.mp hreads))
  | field token =>
    exact .inr (.inr (.inl (map_iff.mpr
      ⟨_, fieldName_of_reads token (reads_singleton.mp hreads), rfl⟩)))
  | call function args each ih =>
    obtain ⟨mid, hname, hreads⟩ := hreads
    obtain ⟨depth, rfl⟩ : ∃ d, depth = d + 1 := ⟨depth - 1, by simp at hdepth; omega⟩
    have hlength : ∀ arg ∈ args, arg.1.length ≤ depth := fun arg harg => by
      have hlength := length_le_length_argumentTokens harg
      simp only [List.length_cons] at hdepth
      omega
    have hargs := arguments_of_reads (E := expression (depth + 1)) (fun arg harg cs rest hreads =>
      ih arg harg (hlength arg harg) hreads) hreads
    exact .inr (.inl (map_iff.mpr ⟨_, ⟨function, mid, hname, _, rest, hargs, rfl, rfl⟩, rfl⟩))
  | parenthesized inside ih =>
    obtain ⟨depth, rfl⟩ : ∃ d, depth = d + 1 := ⟨depth - 1, by simp [between] at hdepth; omega⟩
    exact primary_of_between (ih (by simp [between] at hdepth; omega)) hreads
  | signed op operand ih =>
    obtain ⟨mid, hop, hreads⟩ := hreads
    exact unary_cons hop (ih (by simp at hdepth; omega) hreads)
  | product op left right ihl ihr =>
    obtain ⟨hl, hr, mid, mid', hleft, hop, hright⟩ := exists_of_reads_operator hdepth hreads
    exact binaryLevel_concat (ihl hl hleft) hop (ihr hr hright)
  | sum op left right ihl ihr =>
    obtain ⟨hl, hr, mid, mid', hleft, hop, hright⟩ := exists_of_reads_operator hdepth hreads
    exact binaryLevel_concat (ihl hl hleft) hop (ihr hr hright)
  | comparison op left right ihl ihr =>
    obtain ⟨hl, hr, mid, mid', hleft, hop, hright⟩ := exists_of_reads_operator hdepth hreads
    exact comparison_of_operator (ihl hl hleft) hop (ihr hr hright)
  | negation op operand ih =>
    obtain ⟨mid, hop, hreads⟩ := hreads
    exact negation_cons hop (ih (by simp at hdepth; omega) hreads)
  | conjunction left right ihl ihr =>
    obtain ⟨hl, hr, mid, mid', hleft, hop, hright⟩ := exists_of_reads_operator hdepth hreads
    exact conjunction_concat (ihl hl hleft) hop (ihr hr hright)
  | disjunction left right ihl ihr =>
    obtain ⟨hl, hr, mid, mid', hleft, hop, hright⟩ := exists_of_reads_operator hdepth hreads
    exact disjunction_concat (ihl hl hleft) hop (ihr hr hright)
  | bar inserted behind ih =>
    obtain ⟨mid, hbar, hreads⟩ := hreads
    exact ⟨_, mid, optional_iff.mpr (.inl ⟨_, hbar, rfl⟩), ih (by simp at hdepth; omega) hreads⟩
  | looser tighter ih => exact Level.reading_next _ (ih hdepth hreads)
  | inserted inside ih =>
    -- Parentheses make a primary out of any kind, and a primary passes for every kind.
    obtain ⟨depth, rfl⟩ : ∃ d, depth = d + 1 := ⟨depth - 1, by simp [between] at hdepth; omega⟩
    exact Level.reading_of_primary _ (primary_of_between (fun hreads =>
      Level.alternatives_of_reading _ (ih (by simp [between] at hdepth; omega) hreads)) hreads)

theorem Phrase.expression {ts : List Lexeme} {e : SpelledExpr} (h : Phrase .complete ts e)
    {depth : Nat} (hdepth : ts.length < depth) {cs rest : List Char} (hreads : Reads ts cs rest) :
    Language.expression depth cs e rest := by
  obtain ⟨depth, rfl⟩ : ∃ d, depth = d + 1 := ⟨depth - 1, by omega⟩
  exact h.reading (Nat.le_of_lt_succ hdepth) hreads

theorem optional_semicolon_of_reads {semicolon : Option Bool} {cs rest : List Char}
    (hreads : Reads (semicolonTokens semicolon) cs rest) :
    ∃ taken, optional (sign ";") cs taken rest := by
  cases semicolon with
  | none =>
    obtain rfl : rest = cs := hreads
    exact ⟨none, optional_iff.mpr (.inr ⟨rfl, rfl⟩)⟩
  | some inserted =>
    exact ⟨_, optional_iff.mpr (.inl ⟨_, reads_singleton.mp hreads, rfl⟩)⟩

theorem DirectivePhrase.reading {inline : Bool} {ts : List Lexeme} {d : SpelledDirective}
    (h : DirectivePhrase inline ts d) {depth : Nat} (hdepth : ts.length ≤ depth + 1)
    {cs rest : List Char} (hreads : Reads ts cs rest) :
    directive (expression depth) (directiveSign inline) inline cs d rest := by
  cases h with
  | bare name =>
    obtain ⟨mid, hsign, hreads⟩ := hreads
    exact ⟨_, mid, hsign, name, rest, reads_singleton.mp hreads, none, rest,
      optional_iff.mpr (.inr ⟨rfl, rfl⟩), rfl, rfl⟩
  | withArguments name args each =>
    obtain ⟨mid, hsign, mid', hname, hreads⟩ := hreads
    have hlength : ∀ arg ∈ args, arg.1.length < depth := fun arg harg => by
      have hlength := length_le_length_argumentTokens harg
      simp only [List.length_cons] at hdepth
      omega
    have hargs := arguments_of_reads (E := expression depth) (fun arg harg cs rest hreads =>
      (each arg harg).expression (hlength arg harg) hreads) hreads
    exact ⟨_, mid, hsign, name, mid', hname, some (args.map Prod.snd), rest,
      optional_iff.mpr (.inl ⟨_, hargs, rfl⟩), rfl, rfl⟩

theorem HeaderPhrase.reading {ts : List Lexeme} {d : SpelledDirective} (h : HeaderPhrase ts d)
    {cs rest : List Char} (hreads : Reads ts cs rest) :
    headerItem ts.length cs d rest := by
  obtain ⟨tokens, semicolon⟩ := h
  obtain ⟨mid, hdirective, hsemicolon⟩ := reads_append.mp hreads
  obtain ⟨taken, htaken⟩ := optional_semicolon_of_reads hsemicolon
  exact ⟨d, mid, tokens.reading (by simp; omega) hdirective, taken, rest, htaken, rfl, rfl⟩

/-- A branch is read along its tokens. -/
theorem branch_of_reads {E : Reading SpelledExpr} {block : Reading (List SpelledStatement)}
    {k : String} {b : BranchParts}
    (hcondition : ∀ ⦃cs rest⦄, Reads b.condition.1 cs rest → E cs b.condition.2 rest)
    (hbody : ∀ ⦃cs rest⦄, Reads (b.body.flatMap Prod.fst) cs rest →
      block cs (b.body.map Prod.snd) rest) {cs rest : List Char}
    (hreads : Reads (b.tokens k) cs rest) : branch E k block cs b.tree rest := by
  obtain ⟨mid, hkeyword, hreads⟩ := hreads
  obtain ⟨mid', hc, mid'', hthen, hb⟩ := reads_append.mp hreads
  exact ⟨(), mid, ⟨_, mid, hkeyword, rfl, rfl⟩, _, mid', hcondition hc, (), mid'',
    ⟨_, mid'', hthen, rfl, rfl⟩, _, rest, hbody hb, rfl, rfl⟩

theorem otherwise_of_reads {block : Reading (List SpelledStatement)}
    {otherwise : Option (List (Part SpelledStatement))}
    (h : ∀ body ∈ otherwise, ∀ ⦃cs rest⦄, Reads (body.flatMap Prod.fst) cs rest →
      block cs (body.map Prod.snd) rest) {cs rest : List Char}
    (hreads : Reads (otherwiseTokens otherwise) cs rest) :
    optional (do keyword "else"; block) cs (otherwise.map (List.map Prod.snd)) rest := by
  cases otherwise with
  | none =>
    obtain rfl : rest = cs := hreads
    exact optional_iff.mpr (.inr ⟨rfl, rfl⟩)
  | some body =>
    obtain ⟨mid, hkeyword, hreads⟩ := hreads
    exact optional_iff.mpr (.inl ⟨_, ⟨(), mid, ⟨_, mid, hkeyword, rfl, rfl⟩, h body rfl hreads⟩,
      rfl⟩)

theorem length_add_length_le_tokens (k : String) (b : BranchParts) :
    b.condition.1.length + (b.body.flatMap Prod.fst).length + 2 = (b.tokens k).length := by
  simp only [BranchParts.tokens, List.length_cons, List.length_append]
  omega

/-- A rule is read along its tokens. -/
theorem rule_of_reads {E : Reading SpelledExpr} {block : Reading (List SpelledStatement)}
    {first : BranchParts} {others : List BranchParts}
    {otherwise : Option (List (Part SpelledStatement))}
    (hconditions : ∀ b ∈ first :: others, ∀ ⦃cs rest⦄, Reads b.condition.1 cs rest →
      E cs b.condition.2 rest)
    (hbodies : ∀ b ∈ first :: others, ∀ ⦃cs rest⦄, Reads (b.body.flatMap Prod.fst) cs rest →
      block cs (b.body.map Prod.snd) rest)
    (hother : ∀ body ∈ otherwise, ∀ ⦃cs rest⦄, Reads (body.flatMap Prod.fst) cs rest →
      block cs (body.map Prod.snd) rest) {ts : List Lexeme} {cs rest : List Char}
    (hreads : Reads (first.tokens "if" ++ (others.flatMap (BranchParts.tokens "elif") ++
      (otherwiseTokens otherwise ++ .keyword "fi" :: ts))) cs rest) :
    ∃ mid, rule E block cs
      (.rule (first.tree :: others.map BranchParts.tree) (otherwise.map (List.map Prod.snd))) mid ∧
      Reads ts mid rest := by
  obtain ⟨hfirst, hothers⟩ := List.forall_mem_cons.mp hconditions
  obtain ⟨hfirst', hothers'⟩ := List.forall_mem_cons.mp hbodies
  obtain ⟨behindFirst, hreadsFirst, hreads⟩ := reads_append.mp hreads
  obtain ⟨behindOthers, hreadsOthers, hreads⟩ := reads_append.mp hreads
  obtain ⟨behindBody, hreadsBody, mid, hkeyword, hreads⟩ := reads_append.mp hreads
  have hbranches : star (branch E "elif" block) behindFirst (others.map BranchParts.tree)
      behindOthers :=
    star_of_reads _ (fun b hb _ _ => branch_of_reads (hothers b hb) (hothers' b hb)) hreadsOthers
  exact ⟨mid, ⟨_, behindFirst, branch_of_reads hfirst hfirst' hreadsFirst, _, behindOthers,
    hbranches, _, behindBody, otherwise_of_reads hother hreadsBody, (), mid,
    ⟨_, mid, hkeyword, rfl, rfl⟩, rfl, rfl⟩, hreads⟩

theorem statement_of_bareStatement {depth : Nat} {s : SpelledStatement}
    {semicolon : Option Bool} {cs mid rest : List Char}
    (h : bareStatement (expression depth) (star (statement depth)) cs s mid)
    (hsemicolon : Reads (semicolonTokens semicolon) mid rest) :
    statement (depth + 1) cs s rest := by
  obtain ⟨taken, htaken⟩ := optional_semicolon_of_reads hsemicolon
  exact ⟨s, mid, h, taken, rest, htaken, rfl, rfl⟩

/-- The parts of a rule have fewer tokens than the rule. -/
theorem length_tokens_le_of_mem {first b : BranchParts} {others : List BranchParts}
    (h : b ∈ first :: others) (ts : List Lexeme) :
    b.condition.1.length + (b.body.flatMap Prod.fst).length + 2 ≤
      (first.tokens "if" ++ (others.flatMap (BranchParts.tokens "elif") ++ ts)).length := by
  rw [List.length_append, List.length_append]
  rcases List.mem_cons.mp h with rfl | h
  · rw [length_add_length_le_tokens "if"]
    omega
  · have hb := length_le_length_flatMap (BranchParts.tokens "elif") h
    rw [← length_add_length_le_tokens] at hb
    omega

theorem StatementPhrase.reading {ts : List Lexeme} {s : SpelledStatement}
    (h : StatementPhrase ts s) {depth : Nat} (hdepth : ts.length ≤ depth) {cs rest : List Char}
    (hreads : Reads ts cs rest) : statement depth cs s rest := by
  -- The keywords of a rule and of its branches are tokens that the statements in a body lack, so
  -- that a body is read with one level less.
  induction h generalizing depth cs rest with
  | rule first others otherwise conditions bodies otherBody semicolon ih ihOther =>
    obtain ⟨depth, rfl⟩ : ∃ d, depth = d + 1 :=
      ⟨depth - 1, by simp [BranchParts.tokens] at hdepth; omega⟩
    have hlength {b : BranchParts} (hb : b ∈ first :: others) :=
      Nat.le_trans (length_tokens_le_of_mem hb _) hdepth
    have hcondition : ∀ b ∈ first :: others, ∀ ⦃cs rest⦄, Reads b.condition.1 cs rest →
        expression depth cs b.condition.2 rest := fun b hb _ _ =>
      (conditions b hb).expression (by have := hlength hb; omega)
    have hbody : ∀ b ∈ first :: others, ∀ ⦃cs rest⦄, Reads (b.body.flatMap Prod.fst) cs rest →
        star (statement depth) cs (b.body.map Prod.snd) rest := fun b hb _ _ =>
      star_of_reads _ fun s hs _ _ => ih b hb s hs (by
        have := hlength hb
        have := length_le_length_flatMap Prod.fst hs
        omega)
    have hother : ∀ body ∈ otherwise, ∀ ⦃cs rest⦄, Reads (body.flatMap Prod.fst) cs rest →
        star (statement depth) cs (body.map Prod.snd) rest := fun body hotherwise _ _ =>
      star_of_reads _ fun s hs _ _ => ihOther body hotherwise s hs (by
        obtain rfl : otherwise = some body := hotherwise
        have := length_le_length_flatMap Prod.fst hs
        simp only [List.length_append, otherwiseTokens, List.length_cons] at hdepth
        omega)
    obtain ⟨mid, hrule, hsemicolon⟩ := rule_of_reads hcondition hbody hother hreads
    exact statement_of_bareStatement (.inl hrule) hsemicolon
  | @directive inline ts _ phrase semicolon =>
    obtain ⟨depth, rfl⟩ : ∃ d, depth = d + 1 := ⟨depth - 1, by
      cases phrase <;> simp at hdepth <;> omega⟩
    obtain ⟨mid, hdirective, hsemicolon⟩ := reads_append.mp hreads
    have hlength : ts.length ≤ depth + 1 := by simp at hdepth; omega
    have hread := phrase.reading hlength hdirective
    refine statement_of_bareStatement ?_ hsemicolon
    cases inline with
    | true => exact .inr (.inl (map_iff.mpr ⟨_, hread, rfl⟩))
    | false => exact .inr (.inr (.inl (map_iff.mpr ⟨_, hread, rfl⟩)))
  | assign token value semicolon =>
    obtain ⟨depth, rfl⟩ : ∃ d, depth = d + 1 := ⟨depth - 1, by simp at hdepth; omega⟩
    obtain ⟨mid, hname, mid', hsign, hreads⟩ := hreads
    obtain ⟨behind, hvalue, hsemicolon⟩ := reads_append.mp hreads
    refine statement_of_bareStatement (.inr (.inr (.inr (.inl ?_)))) hsemicolon
    exact ⟨_, mid, fieldName_of_reads token hname, _, mid', hsign, _, behind,
      value.expression (by simp at hdepth; omega) hvalue, rfl, rfl⟩
  | call function args each semicolon =>
    obtain ⟨depth, rfl⟩ : ∃ d, depth = d + 1 := ⟨depth - 1, by simp at hdepth; omega⟩
    obtain ⟨mid, hname, hreads⟩ := hreads
    obtain ⟨behind, hargs, hsemicolon⟩ := reads_append.mp hreads
    refine statement_of_bareStatement (.inr (.inr (.inr (.inr ?_)))) hsemicolon
    have hargs := arguments_of_reads (E := expression depth) (fun arg harg _ _ =>
      (each arg harg).expression (by
        have hlength := length_le_length_argumentTokens harg
        simp only [List.length_cons, List.length_append] at hdepth
        omega)) hargs
    exact map_iff.mpr ⟨_, ⟨function, mid, hname, _, behind, hargs, rfl, rfl⟩, rfl⟩

theorem ProgramPhrase.reading {ts : List Lexeme} {file : SpelledFile} (h : ProgramPhrase ts file)
    {cs : List Char} (hreads : Reads ts cs []) : Language.program cs file := by
  obtain ⟨header, statements, directives, each, isBehindHeader⟩ := h
  obtain ⟨mid, hheader, hstatements⟩ := reads_append.mp hreads
  exact ⟨mid, star_of_reads _ (fun d hd _ _ h => ⟨_, (directives d hd).reading h⟩) hheader,
    star_of_reads _ (fun s hs _ _ h => ⟨_, (each s hs).reading (Nat.le_refl _) h⟩) hstatements,
    isBehindHeader⟩

end RecordScript
