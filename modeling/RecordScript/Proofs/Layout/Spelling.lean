import RecordScript.Proofs.Layout.Reading

/-!
# Phrases of what is read

Whatever the language reads is read along the tokens of a phrase, in which nothing is put in. The
tokens are those that the reading takes, and repeated operands are nested to the left.
-/

namespace RecordScript

open Reading

open Language

/-- None of the tokens is put in. -/
def IsPlain (ts : List Lexeme) : Prop := ∀ t ∈ ts, t.inserted = false

theorem isPlain_nil : IsPlain [] := fun _ h => by cases h

theorem isPlain_cons {t : Lexeme} {ts : List Lexeme} :
    IsPlain (t :: ts) ↔ t.inserted = false ∧ IsPlain ts := List.forall_mem_cons

theorem isPlain_append {ts us : List Lexeme} : IsPlain (ts ++ us) ↔ IsPlain ts ∧ IsPlain us :=
  List.forall_mem_append

/-- Reads what some plain tokens stand for along these. -/
def spelled {α : Type} (P : List Lexeme → α → Prop) : Reading α := fun cs a rest =>
  ∃ ts, P ts a ∧ IsPlain ts ∧ Reads ts cs rest

section Spelled

variable {α β : Type} {P Q : List Lexeme → α → Prop} {R : Reading β}
  {cs mid mid' rest taken : List Char} {a : α}

theorem spelled_mono (h : spelled P cs a rest) (hPQ : ∀ ts, P ts a → Q ts a) :
    spelled Q cs a rest := by
  obtain ⟨ts, hts, hplain, hreads⟩ := h
  exact ⟨ts, hPQ ts hts, hplain, hreads⟩

theorem spelled_looser {level : Level} {e : SpelledExpr} (h : spelled (Phrase level) cs e rest) :
    spelled (Phrase level.next) cs e rest :=
  spelled_mono h fun _ => .looser

theorem spelled_foldl {f : α → β → α} {first : α} {others : List β}
    (hstep : ∀ ⦃a mid b rest⦄, spelled P cs a mid → R mid b rest → spelled P cs (f a b) rest)
    (hfirst : spelled P cs first mid) (hothers : star R mid others rest) :
    spelled P cs (others.foldl f first) rest := by
  induction hothers generalizing first with
  | nil => exact hfirst
  | cons item _ ih => exact ih (hstep hfirst item)

theorem exists_of_star {ι : Type} (tokens : ι → List Lexeme) (tree : ι → β) (Good : ι → Prop)
    (h : ∀ ⦃cs b rest⦄, R cs b rest →
      ∃ i, Good i ∧ tree i = b ∧ IsPlain (tokens i) ∧ Reads (tokens i) cs rest)
    {bs : List β} (hstar : star R cs bs rest) :
    ∃ parts : List ι, (∀ i ∈ parts, Good i) ∧ parts.map tree = bs ∧
      IsPlain (parts.flatMap tokens) ∧ Reads (parts.flatMap tokens) cs rest := by
  induction hstar with
  | nil => exact ⟨[], by simp, rfl, isPlain_nil, rfl⟩
  | cons first _ ih =>
    obtain ⟨i, hi, rfl, hplain, hreads⟩ := h first
    obtain ⟨parts, hparts, rfl, hplains, hreadss⟩ := ih
    exact ⟨i :: parts, List.forall_mem_cons.mpr ⟨hi, hparts⟩, rfl,
      isPlain_append.mpr ⟨hplain, hplains⟩, reads_append.mpr ⟨_, hreads, hreadss⟩⟩

end Spelled

section Expressions

variable {E : Reading SpelledExpr} {cs mid mid' rest taken : List Char} {e l r : SpelledExpr}

theorem spelled_between {P Q S : List Lexeme → SpelledExpr → Prop} {t : Lexeme}
    (ht : t.inserted = false) (hphrase : ∀ {ts us}, P ts l → Q us r → S (ts ++ t :: us) e)
    (hl : spelled P cs l mid) (hop : token t.scan mid t.chars mid') (hr : spelled Q mid' r rest) :
    spelled S cs e rest := by
  obtain ⟨ts, hts, hplain, hreads⟩ := hl
  obtain ⟨us, hus, hplain', hreads'⟩ := hr
  exact ⟨_, hphrase hts hus, isPlain_append.mpr ⟨hplain, isPlain_cons.mpr ⟨ht, hplain'⟩⟩,
    reads_append.mpr ⟨mid, hreads, mid', hop, hreads'⟩⟩

theorem spelled_behind {P Q : List Lexeme → SpelledExpr → Prop} {t : Lexeme}
    (ht : t.inserted = false) (hphrase : ∀ {ts}, P ts l → Q (t :: ts) e)
    (hop : token t.scan cs t.chars mid) (h : spelled P mid l rest) : spelled Q cs e rest := by
  obtain ⟨ts, hts, hplain, hreads⟩ := h
  exact ⟨_, hphrase hts, isPlain_cons.mpr ⟨ht, hplain⟩, mid, hop, hreads⟩

theorem spelled_token {P : List Lexeme → SpelledExpr → Prop} {t : Lexeme}
    (ht : t.inserted = false) (hphrase : P [t] e) (h : token t.scan cs t.chars rest) :
    spelled P cs e rest :=
  ⟨[t], hphrase, isPlain_cons.mpr ⟨ht, isPlain_nil⟩, reads_singleton.mpr h⟩

theorem exists_of_fieldName {name : NameSpelling} (h : fieldName cs name rest) :
    ∃ t, FieldToken t name ∧ t.inserted = false ∧ token t.scan cs t.chars rest := by
  rcases h with h | h <;> obtain ⟨taken, htoken, rfl⟩ := map_iff.mp h
  · exact ⟨_, .bare taken, rfl, htoken⟩
  · exact ⟨_, .braced taken, rfl, htoken⟩

/-- What is taken by a sign are its characters. -/
theorem sign_of_sign {s : String} (h : sign s cs taken rest) : sign s cs s.toList rest := by
  obtain ⟨behind, hscan, hskip⟩ := h
  exact ⟨behind, (Token.sign_eq_some.mp hscan).1 ▸ hscan, hskip⟩

/-- What is read as an expression is read along the tokens of one. -/
def IsSpelled (E : Reading SpelledExpr) : Prop :=
  ∀ ⦃cs e rest⦄, E cs e rest → spelled (Phrase .complete) cs e rest

theorem exists_of_arguments (hE : IsSpelled E) {args : List SpelledExpr}
    (h : arguments E cs args rest) :
    ∃ parts : List (Part SpelledExpr), (∀ p ∈ parts, Phrase .complete p.1 p.2) ∧
      parts.map Prod.snd = args ∧ IsPlain (argumentTokens (parts.map Prod.fst)) ∧
      Reads (argumentTokens (parts.map Prod.fst)) cs rest := by
  obtain ⟨_, mid, hopen, args, mid', hargs, _, _, hclose, rfl, rfl⟩ := h
  have hopen := sign_of_sign hopen
  have hclose := sign_of_sign hclose
  suffices hparts : ∃ parts : List (Part SpelledExpr), (∀ p ∈ parts, Phrase .complete p.1 p.2) ∧
      parts.map Prod.snd = args.getD [] ∧ IsPlain (separatedTokens (parts.map Prod.fst)) ∧
      Reads (separatedTokens (parts.map Prod.fst)) mid mid' by
    obtain ⟨parts, hphrases, htrees, hplain, hreads⟩ := hparts
    exact ⟨parts, hphrases, htrees,
      isPlain_cons.mpr ⟨rfl, isPlain_append.mpr ⟨hplain, isPlain_cons.mpr ⟨rfl, isPlain_nil⟩⟩⟩,
      mid, hopen, reads_append.mpr ⟨mid', hreads, reads_singleton.mpr hclose⟩⟩
  rcases optional_iff.mp hargs with
    ⟨_, ⟨first, behind, hfirst, others, _, hothers, rfl, rfl⟩, rfl⟩ | ⟨rfl, rfl⟩
  · obtain ⟨ts, hts, hplain, hreads⟩ := hE hfirst
    obtain ⟨parts, hphrases, rfl, hplains, hreadss⟩ := exists_of_star
      (fun p : Part SpelledExpr => .comma :: p.1) Prod.snd
      (fun p => Phrase .complete p.1 p.2) (fun _ e _ ⟨_, _, hcomma, he⟩ => by
        obtain ⟨us, hus, hplain, hreads⟩ := hE he
        exact ⟨(us, e), hus, rfl, isPlain_cons.mpr ⟨rfl, hplain⟩, _, sign_of_sign hcomma, hreads⟩)
      hothers
    refine ⟨(ts, first) :: parts, List.forall_mem_cons.mpr ⟨hts, hphrases⟩, rfl, ?_, ?_⟩
    · rw [List.map_cons, separatedTokens, List.flatMap_map]
      exact isPlain_append.mpr ⟨hplain, hplains⟩
    · rw [List.map_cons, separatedTokens, List.flatMap_map]
      exact reads_append.mpr ⟨behind, hreads, hreadss⟩
  · exact ⟨[], by simp, rfl, isPlain_nil, rfl⟩

theorem spelled_of_anyLiteral (h : anyLiteral cs e rest) : spelled (Phrase .primary) cs e rest := by
  rcases h with h | h | h | h <;> obtain ⟨taken, htoken, rfl⟩ := map_iff.mp h
  · exact spelled_token rfl (.literal .boolean taken) htoken
  · exact spelled_token rfl (.literal .number taken) htoken
  · exact spelled_token rfl (.literal .quoted taken) htoken
  · exact spelled_token rfl (.literal .regex taken) htoken

theorem spelled_of_primary (hE : IsSpelled E) (h : primary E cs e rest) :
    spelled (Phrase .primary) cs e rest := by
  rcases h with h | h | h | h
  · exact spelled_of_anyLiteral h
  · obtain ⟨_, ⟨function, mid, hname, args, _, hargs, rfl, rfl⟩, rfl⟩ := map_iff.mp h
    obtain ⟨parts, hphrases, rfl, hplain, hreads⟩ := exists_of_arguments hE hargs
    exact ⟨_, .call function parts hphrases, isPlain_cons.mpr ⟨rfl, hplain⟩, mid, hname, hreads⟩
  · obtain ⟨name, hname, rfl⟩ := map_iff.mp h
    obtain ⟨t, ht, hplain, htoken⟩ := exists_of_fieldName hname
    exact spelled_token hplain (.field ht) htoken
  · obtain ⟨_, mid, hopen, e, mid', he, _, _, hclose, rfl, rfl⟩ := h
    obtain ⟨ts, hts, hplain, hreads⟩ := hE he
    exact ⟨_, .parenthesized hts,
      isPlain_cons.mpr ⟨rfl, isPlain_append.mpr ⟨hplain, isPlain_cons.mpr ⟨rfl, isPlain_nil⟩⟩⟩,
      mid, sign_of_sign hopen,
      reads_append.mpr ⟨mid', hreads, reads_singleton.mpr (sign_of_sign hclose)⟩⟩

theorem spelled_of_unary (hE : IsSpelled E) (h : unary E cs e rest) :
    spelled (Phrase .signed) cs e rest := by
  obtain ⟨ops, mid, hops, operand, _, hoperand, rfl, rfl⟩ := h
  have hlast := spelled_looser (spelled_of_primary hE hoperand)
  -- The operand closes the text, and every operator in front of it makes a new node around it.
  induction hops with
  | nil => exact hlast
  | cons first _ ih =>
    obtain ⟨taken, hop, rfl⟩ := map_iff.mp first
    exact spelled_behind (t := .operator ["+", "-"] (by decide) taken) rfl (.signed taken) hop
      (ih hoperand hlast)

theorem spelled_of_binaryLevel {signs : List String} {hsigns : ∀ s ∈ signs, Token.IsOperatorSign s}
    {operand : Reading SpelledExpr} {P Q : List Lexeme → SpelledExpr → Prop}
    (hoperand : ∀ ⦃cs e rest⦄, operand cs e rest → spelled Q cs e rest)
    (hlooser : ∀ ts e, Q ts e → P ts e)
    (hphrase : ∀ {op : List Char} {ts us : List Lexeme} {l r : SpelledExpr}, P ts l → Q us r →
      P (ts ++ .operator signs hsigns op :: us) (.binary default (Grammar.binaryOp op) l r))
    (h : binaryLevel signs operand cs e rest) : spelled P cs e rest := by
  obtain ⟨first, mid, hfirst, others, _, hothers, rfl, rfl⟩ := h
  refine spelled_foldl (fun l mid item rest hl hitem => ?_)
    (spelled_mono (hoperand hfirst) fun ts => hlooser ts first) hothers
  -- What has been read so far is the left operand of the next operator.
  obtain ⟨op, mid', hop, r, _, hr, rfl, rfl⟩ := hitem
  obtain ⟨taken, htoken, rfl⟩ := map_iff.mp hop
  exact spelled_between (t := .operator signs hsigns taken) rfl hphrase hl htoken
    (hoperand hr)

theorem spelled_of_product (hE : IsSpelled E) (h : product E cs e rest) :
    spelled (Phrase .product) cs e rest :=
  spelled_of_binaryLevel (fun _ _ _ => spelled_of_unary hE) (fun _ _ => .looser) (.product _) h

theorem spelled_of_sum (hE : IsSpelled E) (h : sum E cs e rest) :
    spelled (Phrase .sum) cs e rest :=
  spelled_of_binaryLevel (fun _ _ _ => spelled_of_product hE) (fun _ _ => .looser) (.sum _) h

theorem spelled_of_comparison (hE : IsSpelled E) (h : comparison E cs e rest) :
    spelled (Phrase .comparison) cs e rest := by
  obtain ⟨left, mid, hleft, other, _, hother, h⟩ := h
  have hl := spelled_of_sum hE hleft
  rcases optional_iff.mp hother with ⟨_, ⟨taken, mid', hop, r, _, hr, rfl, rfl⟩, rfl⟩ | ⟨rfl, rfl⟩
  · obtain ⟨rfl, rfl⟩ := h
    exact spelled_between (t := .operator Token.compareSigns (by decide) taken) rfl
      (.comparison taken) hl hop (spelled_of_sum hE hr)
  · obtain ⟨rfl, rfl⟩ := h
    exact spelled_looser hl

theorem spelled_of_negation (hE : IsSpelled E) (h : negation E cs e rest) :
    spelled (Phrase .negation) cs e rest := by
  obtain ⟨nots, mid, hnots, operand, _, hoperand, rfl, rfl⟩ := h
  have hlast := spelled_looser (spelled_of_comparison hE hoperand)
  induction hnots with
  | nil => exact hlast
  | cons first _ ih =>
    obtain ⟨taken, hop, -⟩ := map_iff.mp first
    exact spelled_behind (t := .operator ["!"] (by decide) taken) rfl (.negation taken) hop
      (ih hoperand hlast)

/-- Operands between a sign that joins them as conditions. -/
theorem spelled_of_joined {s : String} {hs : Token.IsSign s ∧ Token.StartsVisibly s}
    {op : LogicalOp} {operand : Reading SpelledExpr} {P Q : List Lexeme → SpelledExpr → Prop}
    (hoperand : ∀ ⦃cs e rest⦄, operand cs e rest → spelled Q cs e rest)
    (hlooser : ∀ ts e, Q ts e → P ts e)
    (hphrase : ∀ {ts us : List Lexeme} {l r : SpelledExpr}, P ts l → Q us r →
      P (ts ++ .sign s hs false :: us)
        (.logical default op (SpelledExpr.asCondition l) (SpelledExpr.asCondition r)))
    {first : SpelledExpr} {others : List SpelledExpr} (hfirst : operand cs first mid)
    (hothers : star (do let _ ← sign s; operand) mid others rest) :
    spelled P cs (Grammar.joinLogical op default first others) rest := by
  rw [Grammar.joinLogical_eq_foldl]
  refine spelled_foldl (fun l mid r rest hl hitem => ?_)
    (spelled_mono (hoperand hfirst) fun ts => hlooser ts first) hothers
  obtain ⟨taken, mid', hop, hr⟩ := hitem
  exact spelled_between (t := .sign s hs false) rfl hphrase hl (sign_of_sign hop) (hoperand hr)

theorem spelled_of_conjunction (hE : IsSpelled E) (h : conjunction E cs e rest) :
    spelled (Phrase .conjunction) cs e rest := by
  obtain ⟨first, mid, hfirst, others, _, hothers, rfl, rfl⟩ := h
  exact spelled_of_joined (fun _ _ _ => spelled_of_negation hE) (fun _ _ => .looser) .conjunction
    hfirst hothers

theorem spelled_of_disjunction (hE : IsSpelled E) (h : disjunction E cs e rest) :
    spelled (Phrase .disjunction) cs e rest := by
  obtain ⟨first, mid, hfirst, others, _, hothers, rfl, rfl⟩ := h
  exact spelled_of_joined (fun _ _ _ => spelled_of_conjunction hE) (fun _ _ => .looser)
    .disjunction hfirst hothers

theorem spelled_of_alternatives (hE : IsSpelled E) (h : alternatives E cs e rest) :
    spelled (Phrase .complete) cs e rest := by
  obtain ⟨bar, mid, hbar, h⟩ := alternatives_iff.mp h
  have hdisjunction := spelled_of_disjunction hE h
  rcases optional_iff.mp hbar with ⟨taken, hsign, -⟩ | ⟨-, rfl⟩
  · exact spelled_behind (t := .bar false) rfl (.bar false) (sign_of_sign hsign) hdisjunction
  · exact spelled_looser hdisjunction

/-- Every expression that is read is read along the tokens of one. -/
theorem isSpelled_expression (depth : Nat) : IsSpelled (expression depth) := by
  induction depth with
  | zero => exact fun _ _ _ h => False.elim h
  | succ depth ih => exact fun _ _ _ h => spelled_of_alternatives ih h

end Expressions

/-! ### Statements -/

section Statements

variable {E : Reading SpelledExpr} {cs mid rest : List Char}

theorem exists_of_semicolon {taken : Option (List Char)} (h : optional (sign ";") cs taken rest) :
    ∃ semicolon, IsPlain (semicolonTokens semicolon) ∧
      Reads (semicolonTokens semicolon) cs rest := by
  rcases optional_iff.mp h with ⟨_, hsign, -⟩ | ⟨-, rfl⟩
  · exact ⟨some false, isPlain_cons.mpr ⟨rfl, isPlain_nil⟩,
      reads_singleton.mpr (sign_of_sign hsign)⟩
  · exact ⟨none, isPlain_nil, rfl⟩

theorem keyword_of_keyword {k : String} (h : keyword k cs () rest) :
    token (Lexeme.keyword k).scan cs (Lexeme.keyword k).chars rest := by
  obtain ⟨taken, _, ⟨behind, hscan, hskip⟩, -, rfl⟩ := h
  have hword := hscan
  rw [Token.keyword_eq] at hword
  obtain rfl : taken = k.toList := by simpa using (Token.wordWith_eq_some.mp hword).2
  exact ⟨behind, hscan, hskip⟩

theorem spelled_of_directive (inline : Bool) (hE : IsSpelled E) {d : SpelledDirective}
    (h : directive E (directiveSign inline) inline cs d rest) :
    spelled (DirectivePhrase inline) cs d rest := by
  obtain ⟨_, mid, hsign, name, mid', hname, args, _, hargs, rfl, rfl⟩ := h
  have hsign := sign_of_sign hsign
  rcases optional_iff.mp hargs with ⟨args, hargs', rfl⟩ | ⟨rfl, rfl⟩
  · obtain ⟨parts, hphrases, rfl, hplain, hreads⟩ := exists_of_arguments hE hargs'
    exact ⟨_, .withArguments name parts hphrases,
      isPlain_cons.mpr ⟨rfl, isPlain_cons.mpr ⟨rfl, hplain⟩⟩, mid, hsign, mid', hname, hreads⟩
  · exact ⟨_, .bare name, isPlain_cons.mpr ⟨rfl, isPlain_cons.mpr ⟨rfl, isPlain_nil⟩⟩, mid, hsign,
      reads_singleton.mpr hname⟩

theorem spelled_of_headerItem {depth : Nat} {d : SpelledDirective}
    (h : headerItem depth cs d rest) : spelled HeaderPhrase cs d rest := by
  obtain ⟨d, mid, hdirective, taken, _, hsemicolon, rfl, rfl⟩ := h
  obtain ⟨ts, hts, hplain, hreads⟩ :=
    spelled_of_directive false (isSpelled_expression depth) hdirective
  obtain ⟨semicolon, hplain', hreads'⟩ := exists_of_semicolon hsemicolon
  exact ⟨_, .directive hts semicolon, isPlain_append.mpr ⟨hplain, hplain'⟩,
    reads_append.mpr ⟨mid, hreads, hreads'⟩⟩

/-- Parts that are read one after the other are read along their tokens. -/
theorem exists_parts_of_star {α : Type} {P : List Lexeme → α → Prop} {R : Reading α}
    (h : ∀ ⦃cs a rest⦄, R cs a rest → spelled P cs a rest) {as : List α}
    (hstar : star R cs as rest) :
    ∃ parts : List (Part α), (∀ p ∈ parts, P p.1 p.2) ∧ parts.map Prod.snd = as ∧
      IsPlain (parts.flatMap Prod.fst) ∧ Reads (parts.flatMap Prod.fst) cs rest :=
  exists_of_star _ _ _ (fun _ a _ ha => by
    obtain ⟨ts, hts, hplain, hreads⟩ := h ha
    exact ⟨(ts, a), hts, rfl, hplain, hreads⟩) hstar

/-- What is read as a block is read along the tokens of its statements. -/
def IsSpelledBlock (block : Reading (List SpelledStatement)) : Prop :=
  ∀ ⦃cs ss rest⦄, block cs ss rest →
    ∃ parts : List (Part SpelledStatement), (∀ p ∈ parts, StatementPhrase p.1 p.2) ∧
      parts.map Prod.snd = ss ∧ IsPlain (parts.flatMap Prod.fst) ∧
      Reads (parts.flatMap Prod.fst) cs rest

/-- The parts of a branch are phrases. -/
def BranchParts.IsSpelled (b : BranchParts) : Prop :=
  Phrase .complete b.condition.1 b.condition.2 ∧ ∀ s ∈ b.body, StatementPhrase s.1 s.2

variable {block : Reading (List SpelledStatement)}

theorem exists_of_branch (hE : IsSpelled E) (hblock : IsSpelledBlock block) {k : String}
    {b : SpelledBranch} (h : branch E k block cs b rest) :
    ∃ parts : BranchParts, parts.IsSpelled ∧ parts.tree = b ∧ IsPlain (parts.tokens k) ∧
      Reads (parts.tokens k) cs rest := by
  obtain ⟨_, mid, hkeyword, e, mid', he, _, mid'', hthen, ss, _, hss, rfl, rfl⟩ := h
  obtain ⟨ts, hts, hplain, hreads⟩ := hE he
  obtain ⟨parts, hparts, rfl, hplain', hreads'⟩ := hblock hss
  exact ⟨⟨(ts, e), parts⟩, ⟨hts, hparts⟩, rfl,
    isPlain_cons.mpr ⟨rfl, isPlain_append.mpr ⟨hplain, isPlain_cons.mpr ⟨rfl, hplain'⟩⟩⟩,
    mid, keyword_of_keyword hkeyword,
    reads_append.mpr ⟨mid', hreads, mid'', keyword_of_keyword hthen, hreads'⟩⟩

theorem exists_of_otherwise (hblock : IsSpelledBlock block)
    {otherwise : Option (List SpelledStatement)}
    (h : optional (do keyword "else"; block) cs otherwise rest) :
    ∃ parts : Option (List (Part SpelledStatement)),
      (∀ body ∈ parts, ∀ s ∈ body, StatementPhrase s.1 s.2) ∧
      parts.map (List.map Prod.snd) = otherwise ∧ IsPlain (otherwiseTokens parts) ∧
      Reads (otherwiseTokens parts) cs rest := by
  rcases optional_iff.mp h with ⟨ss, ⟨_, mid, hkeyword, hss⟩, rfl⟩ | ⟨rfl, rfl⟩
  · obtain ⟨parts, hparts, rfl, hplain, hreads⟩ := hblock hss
    exact ⟨some parts, by rintro body ⟨⟩; exact hparts, rfl, isPlain_cons.mpr ⟨rfl, hplain⟩, mid,
      keyword_of_keyword hkeyword, hreads⟩
  · exact ⟨none, by rintro body ⟨⟩, rfl, isPlain_nil, rfl⟩

theorem spelled_of_rule (hE : IsSpelled E) (hblock : IsSpelledBlock block)
    {s : SpelledStatement} (h : rule E block cs s mid) {taken : Option (List Char)}
    (hsemicolon : optional (sign ";") mid taken rest) : spelled StatementPhrase cs s rest := by
  obtain ⟨first, behind, hfirst, others, behind', hothers, otherwise, behind'', hotherwise, _, _,
    hkeyword, rfl, rfl⟩ := h
  obtain ⟨first, hf, rfl, hplain₁, hreads₁⟩ := exists_of_branch hE hblock hfirst
  obtain ⟨others, ho, rfl, hplain₂, hreads₂⟩ :=
    exists_of_star _ _ _ (fun _ _ _ h => exists_of_branch hE hblock h) hothers
  obtain ⟨otherwise, hbody, rfl, hplain₃, hreads₃⟩ := exists_of_otherwise hblock hotherwise
  obtain ⟨semicolon, hplain₄, hreads₄⟩ := exists_of_semicolon hsemicolon
  have hall := List.forall_mem_cons.mpr ⟨hf, ho⟩
  exact ⟨_, .rule first others otherwise (fun b hb => (hall b hb).1) (fun b hb => (hall b hb).2)
    hbody semicolon,
    isPlain_append.mpr ⟨hplain₁, isPlain_append.mpr ⟨hplain₂, isPlain_append.mpr ⟨hplain₃,
      isPlain_cons.mpr ⟨rfl, hplain₄⟩⟩⟩⟩,
    reads_append.mpr ⟨behind, hreads₁, reads_append.mpr ⟨behind', hreads₂,
      reads_append.mpr ⟨behind'', hreads₃, _, keyword_of_keyword hkeyword, hreads₄⟩⟩⟩⟩

theorem spelled_of_statementOver (hE : IsSpelled E) (hblock : IsSpelledBlock block)
    {s : SpelledStatement} (h : statementOver E block cs s rest) :
    spelled StatementPhrase cs s rest := by
  obtain ⟨s, mid, hbare, taken, _, hsemicolon, rfl, rfl⟩ := h
  have directive {inline : Bool} {d : SpelledDirective}
      (h : spelled (DirectivePhrase inline) cs d mid) :
      spelled StatementPhrase cs (.directive d) rest := by
    obtain ⟨ts, hts, hplain, hreads⟩ := h
    obtain ⟨semicolon, hplain', hreads'⟩ := exists_of_semicolon hsemicolon
    exact ⟨_, .directive hts semicolon, isPlain_append.mpr ⟨hplain, hplain'⟩,
      reads_append.mpr ⟨mid, hreads, hreads'⟩⟩
  rcases hbare with h | h | h | h | h
  · exact spelled_of_rule hE hblock h hsemicolon
  · obtain ⟨d, hd, rfl⟩ := map_iff.mp h
    exact directive (spelled_of_directive true hE hd)
  · obtain ⟨d, hd, rfl⟩ := map_iff.mp h
    exact directive (spelled_of_directive false hE hd)
  · obtain ⟨name, behind, hname, sign, behind', hsign, e, _, he, rfl, rfl⟩ := h
    obtain ⟨t, ht, hplain, htoken⟩ := exists_of_fieldName hname
    obtain ⟨ts, hts, hplain', hreads⟩ := hE he
    obtain ⟨semicolon, hplain'', hreads'⟩ := exists_of_semicolon hsemicolon
    refine ⟨_, .assign ht hts semicolon, isPlain_cons.mpr ⟨hplain,
      isPlain_cons.mpr ⟨rfl, isPlain_append.mpr ⟨hplain', hplain''⟩⟩⟩, behind, htoken, behind', ?_,
      reads_append.mpr ⟨_, hreads, hreads'⟩⟩
    obtain ⟨text, hscan, hskip⟩ := hsign
    obtain ⟨rfl, -⟩ := Token.assignSign_eq_some.mp hscan
    exact ⟨text, hscan, hskip⟩
  · obtain ⟨_, ⟨function, behind, hname, args, _, hargs, rfl, rfl⟩, rfl⟩ := map_iff.mp h
    obtain ⟨parts, hphrases, rfl, hplain, hreads⟩ := exists_of_arguments hE hargs
    obtain ⟨semicolon, hplain', hreads'⟩ := exists_of_semicolon hsemicolon
    exact ⟨_, .call function parts hphrases semicolon,
      isPlain_cons.mpr ⟨rfl, isPlain_append.mpr ⟨hplain, hplain'⟩⟩, behind, hname,
      reads_append.mpr ⟨_, hreads, hreads'⟩⟩

/-- Every statement that is read is read along the tokens of one. -/
theorem spelled_of_statement {depth : Nat} {s : SpelledStatement} (h : statement depth cs s rest) :
    spelled StatementPhrase cs s rest := by
  induction depth generalizing cs s rest with
  | zero => exact h.elim
  | succ depth ih =>
    exact spelled_of_statementOver (isSpelled_expression depth)
      (fun _ _ _ h => exists_parts_of_star (fun _ _ _ h => ih h) h) h

/-- Every program that is read is read along the tokens of one. -/
theorem exists_of_program {file : SpelledFile} (h : program cs file) :
    ∃ ts, ProgramPhrase ts file ∧ IsPlain ts ∧ Reads ts cs [] := by
  obtain ⟨header, statements⟩ := file
  obtain ⟨mid, hheader, hstatements, hbehind⟩ := h
  obtain ⟨parts, hparts, rfl, hplain, hreads⟩ :=
    exists_parts_of_star (fun _ _ _ ⟨_, h⟩ => spelled_of_headerItem h) hheader
  obtain ⟨parts', hparts', rfl, hplain', hreads'⟩ :=
    exists_parts_of_star (fun _ _ _ ⟨_, h⟩ => spelled_of_statement h) hstatements
  exact ⟨_, .program parts parts' hparts hparts' hbehind, isPlain_append.mpr ⟨hplain, hplain'⟩,
    reads_append.mpr ⟨mid, hreads, hreads'⟩⟩

end Statements

end RecordScript
