import RecordScript.Proofs.Grammar.Soundness
import RecordScript.Proofs.Grammar.Start

/-!
# What belongs to the language is read

Where a construct can be read and the text behind it cannot go on with it, its parser reads it. The
choices of the parsers are decided by the first characters, so nothing is lost by their order, and
the bounds on repetitions and on nesting are those of the length of the text.

The marks of a level are the characters that could go on with a construct of this level.
-/

open RecordScript.Parser (Sound Yields Fails yields_pure yields_here_bind yields_token fails_token
  yields_many)

namespace RecordScript

namespace Grammar

open Language (mulSigns addSigns isPrimaryStart isOperandStart isNegationStart isStatementStart)

/-- What could go on with a name: it would become a call. -/
def callMarks : List Char := ['(']

/-- What could go on with a product. -/
def productMarks : List Char := '*' :: '/' :: '%' :: callMarks

/-- What could go on with a sum. -/
def sumMarks : List Char := '+' :: '-' :: '.' :: productMarks

/-- What could go on with a comparison. -/
def compareMarks : List Char := '=' :: '!' :: '<' :: '>' :: '~' :: sumMarks

/-- What could go on with a conjunction. -/
def andMarks : List Char := '&' :: compareMarks

/-- What could go on with an expression. -/
def expressionMarks : List Char := '|' :: andMarks

/-- What could go on with a statement. -/
def statementMarks : List Char := ';' :: expressionMarks

/-- The parser reads the expressions of texts of at most the given length. -/
structure ReadsUpTo (length : Nat) (expr : Parser SpelledExpr) (E : Reading SpelledExpr) : Prop where
  takes : Reading.Takes 1 E
  /-- No expression starts with a closing parenthesis. -/
  fails : ∀ cs, Fails expr (')' :: cs)
  yields : ∀ ⦃cs e rest⦄, E cs e rest → cs.length ≤ length → Avoids expressionMarks rest →
    Yields ExprOf.unplaced expr cs e rest

variable {cs rest : List Char}

theorem yields_sign {s : String} {taken : List Char} (h : Language.sign s cs taken rest) :
    Yields id (sign s) cs taken rest := yields_token h

theorem fails_sign {s : String} {marks : List Char} (h : Avoids marks cs)
    (hs : ∃ c ∈ s.toList.head?, c ∈ marks) : Fails (sign s) cs :=
  fails_token (Token.sign_of_avoids h hs)

/-- Where a sign can be read, the text starts with it. -/
theorem avoids_of_sign {s : String} {taken marks : List Char} (h : Language.sign s cs taken rest)
    (hs : ∃ c ∈ s.toList.head?, c ∉ marks) : Avoids marks cs := by
  have hstarts : Reading.Starts (fun c => c ∉ marks) (Language.sign s) :=
    Language.starts_sign (by simpa using hs)
  exact hstarts.avoids (by simp) h

theorem yields_bareName {name : List Char} (h : Language.bareName cs name rest) :
    Yields id bareName cs name rest :=
  (yields_token h).named _

theorem yields_fieldName {spelling : NameSpelling} (h : Language.fieldName cs spelling rest) :
    Yields id fieldName cs spelling rest := by
  rcases h with h | h
  · obtain ⟨taken, htaken, rfl⟩ := Reading.map_iff.mp h
    have hbare : Yields id (NameSpelling.bare <$> bareName) cs (.bare taken) rest :=
      (yields_bareName htaken).map fun _ ha => congrArg NameSpelling.bare ha
    exact hbare.orElse_left _
  · obtain ⟨taken, htaken, rfl⟩ := Reading.map_iff.mp h
    have hfails : Fails (NameSpelling.bare <$> bareName) cs := by
      refine Fails.map (sound_bareName.fails fun name rest' hname => ?_) _
      obtain ⟨c, cs', rfl, hc⟩ := Language.starts_bareName hname
      obtain ⟨behind, hscan, -⟩ := htaken
      obtain ⟨cs'', heq⟩ := Token.exists_of_delimited hscan
      obtain ⟨rfl, -⟩ := List.cons.inj heq
      cases hc
    have hbraced : Yields id ((fun taken => .braced (Token.inner taken)) <$> bracedName) cs
        (NameSpelling.braced (Token.inner taken)) rest :=
      Yields.map ((yields_token htaken).named _) fun _ ha =>
        congrArg (fun taken => NameSpelling.braced (Token.inner taken)) ha
    exact .orElse_right hfails hbraced

theorem yields_literal {construct : Construct} {scan : Parser.Scanner}
    {spelling : List Char → LiteralSpelling} {e : SpelledExpr}
    (h : Language.literal scan spelling cs e rest) :
    Yields ExprOf.unplaced (literal construct scan spelling) cs e rest := by
  obtain ⟨taken, htaken, rfl⟩ := Reading.map_iff.mp h
  refine yields_here_bind fun pos => ((yields_token htaken).named _).bind fun taken' ht => ?_
  exact yields_pure (by rw [← ht]; rfl)

theorem fails_literal {construct : Construct} {scan : Parser.Scanner}
    {spelling : List Char → LiteralSpelling} (h : scan cs = none) :
    Fails (literal construct scan spelling) cs :=
  Parser.fails_here_bind fun _ => Fails.bind ((fails_token h).named _) _

theorem yields_anyLiteral {e : SpelledExpr} (h : Language.anyLiteral cs e rest) :
    Yields ExprOf.unplaced anyLiteral cs e rest := by
  rcases h with h | h | h | h
  · exact (yields_literal h).orElse_left _
  · obtain ⟨taken, ⟨behind, hscan, -⟩, -⟩ := Reading.map_iff.mp h
    obtain ⟨c, cs', rfl, hc⟩ := Token.exists_of_number hscan
    have hword := Token.word_cons_of_not (Token.isWordStart_of_isDigit hc) cs'
    have hboolean : Token.boolean (c :: cs') = none :=
      Token.boolean_eq ▸ Token.wordWith_of_word _ hword
    exact .orElse_right (fails_literal hboolean) ((yields_literal h).orElse_left _)
  · obtain ⟨taken, ⟨behind, hscan, -⟩, -⟩ := Reading.map_iff.mp h
    have hhead : ∃ c cs', cs = c :: cs' ∧ c ∈ ['"', '\''] := by
      rcases Token.quoted_cases hscan with hd | hd <;>
        obtain ⟨cs', rfl⟩ := Token.exists_of_delimited hd
      · exact ⟨_, cs', rfl, by decide⟩
      · exact ⟨_, cs', rfl, by decide⟩
    obtain ⟨c, cs', rfl, hc⟩ := hhead
    have hquotes : ∀ c ∈ ['"', '\''], Token.isWordStart c = false ∧ c.isDigit = false := by decide
    have hnot := hquotes c hc
    have hboolean : Token.boolean (c :: cs') = none :=
      Token.boolean_eq ▸ Token.wordWith_of_word _ (Token.word_cons_of_not hnot.1 cs')
    exact .orElse_right (fails_literal hboolean)
      (.orElse_right (fails_literal (Token.number_cons_of_not hnot.2 cs'))
        ((yields_literal h).orElse_left _))
  · obtain ⟨taken, ⟨behind, hscan, -⟩, -⟩ := Reading.map_iff.mp h
    obtain ⟨cs', rfl⟩ := Token.exists_of_delimited hscan
    have hboolean : Token.boolean ('/' :: cs') = none :=
      Token.boolean_eq ▸ Token.wordWith_of_word _ (Token.word_cons_of_not rfl cs')
    exact .orElse_right (fails_literal hboolean)
      (.orElse_right (fails_literal (Token.number_cons_of_not rfl cs'))
        (.orElse_right (fails_literal (Token.quoted_cons_of_not (by decide) cs'))
          (yields_literal h)))

section Expressions

variable {limit : Nat} {expr : Parser SpelledExpr} {E : Reading SpelledExpr}

/-- Operands behind signs that go on with a construct are all read. -/
theorem yields_joined (limit : Nat) {operand : Parser SpelledExpr} {R : Reading SpelledExpr}
    {s : String} {marks : List Char} (htakes : Reading.Takes 1 R)
    (hoperand : ∀ ⦃cs e rest⦄, R cs e rest → cs.length ≤ limit → Avoids marks rest →
      Yields ExprOf.unplaced operand cs e rest)
    (hs : Token.IsSign s) {levelMarks : List Char} (hsubset : marks ⊆ levelMarks)
    (hmark : ∃ c ∈ s.toList.head?, c ∈ levelMarks ∧ c ∉ marks) {mid : List Char}
    {others : List SpelledExpr}
    (hothers : Reading.star (do let _ ← Language.sign s; R) mid others rest)
    (hlength : mid.length ≤ limit) (hrest : Avoids levelMarks rest) :
    Avoids marks mid ∧ Yields (List.map ExprOf.unplaced)
      (Parser.many limit (do let _ ← sign s; operand)) mid others rest := by
  have hitemTakes : Reading.Takes 1 (do let _ ← Language.sign s; R) :=
    (Language.takes_sign hs).bind_left fun _ => htakes.zero
  have hitemFirst : ∀ ⦃cs e rest⦄, (do let _ ← Language.sign s; R) cs e rest →
      Avoids marks cs := by
    rintro cs e rest ⟨_, mid, hsign, -⟩
    obtain ⟨c, hc, -, hnot⟩ := hmark
    exact avoids_of_sign hsign ⟨c, hc, hnot⟩
  have hothersLength := Reading.length_add_length_le hitemTakes hothers
  have hstop : Fails (sign s) rest := by
    obtain ⟨c, hc, hlevel, -⟩ := hmark
    exact fails_sign hrest ⟨c, hc, hlevel⟩
  constructor
  · exact Reading.of_star hothers hitemFirst (hrest.mono hsubset)
  · refine yields_many (n := limit) hothers hitemTakes.zero ?_ hitemFirst (hrest.mono hsubset)
      (hstop.bind _) hlength (by omega)
    rintro cs e rest ⟨_, mid, hsign, he⟩ hlength hrest
    have hsignTakes := Language.takes_sign hs hsign
    exact (yields_sign hsign).bind fun _ _ => hoperand he (by omega) hrest

theorem yields_separated (hE : ReadsUpTo limit expr E) {es : List SpelledExpr}
    (h : Language.separated E cs es rest) (hlength : cs.length ≤ limit)
    (hrest : Avoids (',' :: expressionMarks) rest) :
    Yields (List.map ExprOf.unplaced) (separated limit expr) cs es rest := by
  obtain ⟨first, mid, hfirst, others, _, hothers, rfl, rfl⟩ := h
  have hfirstTakes := hE.takes hfirst
  obtain ⟨hmid, hmany⟩ := yields_joined limit hE.takes hE.yields (by decide) (by decide) (by decide)
    hothers (by omega) hrest
  refine (hE.yields hfirst hlength hmid).bind fun first' hfirst' => ?_
  exact hmany.bind fun others' hothers' => yields_pure (by rw [List.map_cons, hfirst', hothers'])

theorem yields_arguments (hE : ReadsUpTo limit expr E) {es : List SpelledExpr}
    (h : Language.arguments E cs es rest) (hlength : cs.length ≤ limit + 1) :
    Yields (List.map ExprOf.unplaced) (arguments limit expr) cs es rest := by
  obtain ⟨_, mid, hopen, args, last, hargs, _, _, hclose, rfl, rfl⟩ := h
  have hopenTakes := Language.takes_sign (by decide) hopen
  refine Yields.named ((yields_sign hopen).bind fun _ _ => ?_) _
  have hlast : ∃ cs', last = ')' :: cs' := by
    obtain ⟨behind, hscan, -⟩ := hclose
    exact ⟨behind, (Token.sign_eq_some.mp hscan).2 ▸ (Token.sign_eq_some.mp hscan).1 ▸ rfl⟩
  obtain ⟨cs', rfl⟩ := hlast
  have hoptional : Yields (Option.map (List.map ExprOf.unplaced))
      (Parser.optional (separated limit expr)) mid args (')' :: cs') := by
    rcases Reading.optional_iff.mp hargs with ⟨es, hes, rfl⟩ | ⟨rfl, rfl⟩
    · exact (yields_separated hE hes (by omega) (avoids_cons.mpr (by decide))).optional
    · exact Fails.optional ((hE.fails cs').bind _)
  refine hoptional.bind fun args' hargs' => (yields_sign hclose).bind fun _ _ => yields_pure ?_
  rw [← hargs']
  cases args' <;> rfl

theorem yields_call (hE : ReadsUpTo limit expr E) {c : String × List SpelledExpr}
    (h : Language.call E cs c rest) (hlength : cs.length ≤ limit + 1) :
    Yields viewCall (call limit expr) cs c rest := by
  obtain ⟨function, mid, hname, args, _, hargs, rfl, rfl⟩ := h
  have hnameTakes := Language.takes_bareName hname
  refine Yields.named (yields_here_bind fun pos => (yields_bareName hname).bind fun f hf => ?_) _
  refine (yields_arguments hE hargs (by omega)).bind fun args' hargs' => yields_pure ?_
  rw [← hf, ← hargs']
  rfl

theorem yields_fieldRead {e : SpelledExpr} (h : Language.fieldRead cs e rest) :
    Yields ExprOf.unplaced fieldRead cs e rest := by
  obtain ⟨spelling, hname, rfl⟩ := Reading.map_iff.mp h
  refine yields_here_bind fun pos => ((yields_fieldName hname).named _).bind fun s hs => ?_
  exact yields_pure (by rw [← hs]; rfl)

theorem yields_parenthesized (hE : ReadsUpTo limit expr E) {e : SpelledExpr}
    (h : Language.parenthesized E cs e rest) (hlength : cs.length ≤ limit + 1) :
    Yields ExprOf.unplaced (parenthesized expr) cs e rest := by
  obtain ⟨_, mid, hopen, e', last, he, _, _, hclose, rfl, rfl⟩ := h
  have hopenTakes := Language.takes_sign (by decide) hopen
  refine (yields_sign hopen).bind fun _ _ => ?_
  refine (hE.yields he (by omega) (avoids_of_sign hclose (by decide))).bind fun e' he' => ?_
  exact (yields_sign hclose).bind fun _ _ => yields_pure he'

/-! ### Which primary expression it is -/

theorem not_anyLiteral (hboolean : Token.boolean cs = none) (hnumber : Token.number cs = none)
    (hquoted : Token.quoted cs = none) (hregex : Token.regex cs = none) (e : SpelledExpr)
    (rest : List Char) : ¬ Language.anyLiteral cs e rest := by
  rintro (h | h | h | h) <;> obtain ⟨taken, ⟨behind, hscan, -⟩, -⟩ := Reading.map_iff.mp h
  · rw [hboolean] at hscan
    cases hscan
  · rw [hnumber] at hscan
    cases hscan
  · rw [hquoted] at hscan
    cases hscan
  · rw [hregex] at hscan
    cases hscan

theorem not_anyLiteral_of_name {name : List Char} (h : Language.bareName cs name rest)
    (e : SpelledExpr) (rest' : List Char) : ¬ Language.anyLiteral cs e rest' := by
  obtain ⟨behind, hname, -⟩ := h
  have hboolean := Token.boolean_of_name hname
  obtain ⟨c, cs', rfl, hc⟩ := Token.exists_of_word (Token.wordWith_eq_some.mp
    (Token.name_eq ▸ hname)).1
  have hdigit : c.isDigit = false := by
    by_contra hd
    rw [Token.isWordStart_of_isDigit (by simpa using hd)] at hc
    cases hc
  have hopening : ∀ c ∈ ['"', '\'', '/'], Token.isWordStart c = false := by decide
  have hnot : c ∉ ['"', '\'', '/'] := fun hmem => by
    rw [hopening c hmem] at hc
    cases hc
  have hquoted : c ∉ ['"', '\''] := fun hmem => hnot (by simp_all)
  have hslash : c ≠ '/' := fun heq => hnot (by simp [heq])
  exact not_anyLiteral hboolean (Token.number_cons_of_not hdigit cs')
    (Token.quoted_cons_of_not hquoted cs') (Token.delimited_cons_of_ne hslash cs') e rest'

theorem not_anyLiteral_of_mem {c : Char} (hc : c ∈ ['\x7b', '(']) (cs : List Char)
    (e : SpelledExpr) (rest : List Char) : ¬ Language.anyLiteral (c :: cs) e rest := by
  have hclass : ∀ c ∈ ['\x7b', '('], Token.isWordStart c = false ∧ c.isDigit = false ∧
      c ∉ ['"', '\''] ∧ c ≠ '/' := by decide
  obtain ⟨hword, hdigit, hquote, hslash⟩ := hclass c hc
  have hboolean : Token.boolean (c :: cs) = none :=
    Token.boolean_eq ▸ Token.wordWith_of_word _ (Token.word_cons_of_not hword cs)
  exact not_anyLiteral hboolean (Token.number_cons_of_not hdigit cs)
    (Token.quoted_cons_of_not hquote cs) (Token.delimited_cons_of_ne hslash cs) e rest

/-- Behind the name of a field that is no call there is no list of arguments. -/
theorem not_call_of_fieldRead {e : SpelledExpr} (h : Language.fieldRead cs e rest)
    (hrest : Avoids callMarks rest) (c : String × List SpelledExpr) (rest' : List Char) :
    ¬ Language.call E cs c rest' := by
  rintro ⟨function, mid, hfunction, args, _, ⟨_, last, hopen, -⟩, -⟩
  obtain ⟨spelling, hname | hname, -⟩ := Reading.map_iff.mp h
  · obtain ⟨taken, ⟨behind, hscan, rfl⟩, -⟩ := Reading.map_iff.mp hname
    obtain ⟨behind', hscan', rfl⟩ := hfunction
    obtain ⟨rfl, rfl⟩ := Prod.mk.inj (Option.some.inj (hscan.symm.trans hscan'))
    obtain ⟨c, cs', heq, hc⟩ := Language.starts_sign (p := (· = '(')) (by decide) hopen
    rw [heq, avoids_cons] at hrest
    exact hrest (by simpa [callMarks] using hc)
  · obtain ⟨taken, ⟨behind, hscan, -⟩, -⟩ := Reading.map_iff.mp hname
    obtain ⟨cs', rfl⟩ := Token.exists_of_delimited hscan
    obtain ⟨c, cs'', heq, hc⟩ := Language.starts_bareName hfunction
    obtain ⟨rfl, -⟩ := List.cons.inj heq
    cases hc

theorem not_anyLiteral_of_fieldRead {e : SpelledExpr} (h : Language.fieldRead cs e rest)
    (e' : SpelledExpr) (rest' : List Char) : ¬ Language.anyLiteral cs e' rest' := by
  obtain ⟨spelling, hname | hname, -⟩ := Reading.map_iff.mp h
  · obtain ⟨taken, htaken, -⟩ := Reading.map_iff.mp hname
    exact not_anyLiteral_of_name htaken e' rest'
  · obtain ⟨taken, ⟨behind, hscan, -⟩, -⟩ := Reading.map_iff.mp hname
    obtain ⟨cs', rfl⟩ := Token.exists_of_delimited hscan
    exact not_anyLiteral_of_mem (by decide) cs' e' rest'

/-- Nothing but an expression in parentheses starts with one. -/
theorem fails_of_parenthesis (limit : Nat) (expr : Parser SpelledExpr) (cs : List Char) :
    Fails anyLiteral ('(' :: cs) ∧ Fails (call limit expr) ('(' :: cs) ∧
      Fails fieldRead ('(' :: cs) := by
  have hliteral : Fails anyLiteral ('(' :: cs) :=
    sound_anyLiteral.fails (not_anyLiteral_of_mem (by decide) cs)
  have hcall : Fails (call limit expr) ('(' :: cs) := by
    refine (sound_call (Parser.sound_anything _ expr)).fails fun c rest hcall => ?_
    obtain ⟨c', cs', heq, hc⟩ := Language.starts_bareName hcall.choose_spec.choose_spec.1
    obtain ⟨rfl, -⟩ := List.cons.inj heq
    cases hc
  have hfield : Fails fieldRead ('(' :: cs) := by
    refine sound_fieldRead.fails fun e rest hfield => ?_
    obtain ⟨spelling, hspelling, -⟩ := Reading.map_iff.mp hfield
    obtain ⟨c', cs', heq, hc⟩ := Language.starts_fieldName hspelling
    obtain ⟨rfl, -⟩ := List.cons.inj heq
    cases hc
  exact ⟨hliteral, hcall, hfield⟩

theorem yields_primary (hE : ReadsUpTo limit expr E) {e : SpelledExpr}
    (h : Language.primary E cs e rest) (hlength : cs.length ≤ limit + 1)
    (hrest : Avoids callMarks rest) :
    Yields ExprOf.unplaced (primary limit expr) cs e rest := by
  -- The alternatives are tried in order: what is not the first fails for those before it.
  rcases h with h | h | h | h
  · exact (yields_anyLiteral h).orElse_left _
  · obtain ⟨c, hc, rfl⟩ := Reading.map_iff.mp h
    have hliteral : Fails anyLiteral cs :=
      sound_anyLiteral.fails (not_anyLiteral_of_name hc.choose_spec.choose_spec.1)
    refine .orElse_right hliteral (Yields.orElse_left ?_ _)
    refine (yields_call hE hc hlength).map fun _ hview => ?_
    rw [← hview, ExprOf.unplaced, unplacedArgs_eq]
    rfl
  · have hliteral : Fails anyLiteral cs := sound_anyLiteral.fails (not_anyLiteral_of_fieldRead h)
    have hcall : Fails (call limit expr) cs :=
      (sound_call (Parser.sound_anything _ expr)).fails (not_call_of_fieldRead h hrest)
    exact .orElse_right hliteral
      (.orElse_right (hcall.map _) ((yields_fieldRead h).orElse_left _))
  · obtain ⟨c, cs', rfl, hc⟩ : ∃ c cs', cs = c :: cs' ∧ (c = '(') = true := by
      obtain ⟨_, mid, hopen, -⟩ := h
      simpa using Language.starts_sign (p := (· = '(')) (by decide) hopen
    obtain rfl : c = '(' := by simpa using hc
    obtain ⟨hliteral, hcall, hfield⟩ := fails_of_parenthesis limit expr cs'
    exact .orElse_right hliteral (.orElse_right (hcall.map _)
      (.orElse_right hfield (yields_parenthesized hE h hlength)))

/-! ### Operators -/

theorem yields_operator {α : Type} {construct : Construct} {signs : List String}
    {op : List Char → α} {a : α} (h : Language.operator signs op cs a rest) :
    Yields Prod.snd (operator construct signs op) cs a rest := by
  obtain ⟨taken, htaken, rfl⟩ := Reading.map_iff.mp h
  refine yields_here_bind fun pos => ((yields_token htaken).named _).bind fun taken' ht => ?_
  exact yields_pure (congrArg op ht)

theorem fails_operator {α : Type} {construct : Construct} {signs : List String}
    {op : List Char → α} {marks : List Char} (h : Avoids marks cs)
    (hsigns : ∀ s ∈ signs, ∃ c ∈ s.toList.head?, c ∈ marks) :
    Fails (operator construct signs op) cs :=
  Parser.fails_here_bind fun _ =>
    Fails.bind ((fails_token (Token.anySign_of_avoids h hsigns)).named _) _

/-- Operators before an operand are all read: the operand does not start with one. -/
theorem yields_operators {α : Type} {construct : Construct} {signs : List String}
    {op : List Char → α} {ops : List α} (h : Reading.star (Language.operator signs op) cs ops rest)
    (hsigns : ∀ s ∈ signs, Token.IsSign s) {marks : List Char} (hrest : Avoids marks rest)
    (hmarks : ∀ s ∈ signs, ∃ c ∈ s.toList.head?, c ∈ marks) (hlimit : ops.length ≤ limit) :
    Yields (List.map Prod.snd) (Parser.many limit (operator construct signs op)) cs ops rest :=
  have hitem : ∀ ⦃cs' op' rest⦄, Language.operator signs op cs' op' rest → cs'.length ≤ cs.length →
      True → Yields Prod.snd (operator construct signs op) cs' op' rest :=
    fun _ _ _ hop _ _ => yields_operator hop
  yields_many h (Language.takes_operator hsigns op).zero hitem (fun _ _ _ _ => trivial) trivial
    (fails_operator hrest hmarks) (Nat.le_refl _) hlimit

theorem yields_unary (hE : ReadsUpTo limit expr E) {e : SpelledExpr}
    (h : Language.unary E cs e rest) (hlength : cs.length ≤ limit + 1)
    (hrest : Avoids callMarks rest) : Yields ExprOf.unplaced (unary limit expr) cs e rest := by
  obtain ⟨ops, mid, hops, operand, _, hoperand, rfl, rfl⟩ := h
  have hopsTakes : Reading.Takes 1 (Language.operator ["+", "-"] fun taken =>
      if taken = ['-'] then UnaryOp.minus else .plus) := Language.takes_operator (by decide) _
  have hopsLength := Reading.length_add_length_le hopsTakes hops
  have hoperandTakes := Language.takes_primary hE.takes.zero hoperand
  have hmid : Avoids ['+', '-'] mid := (Language.starts_primary E).avoids (by decide) hoperand
  refine Yields.named ((yields_operators hops (by decide) hmid (by decide) (by omega)).bind
    fun ops' hops' => ?_) _
  refine (yields_primary hE hoperand (by omega) hrest).bind fun operand' ho => yields_pure ?_
  rw [unplaced_applyUnary, hops', ho]

theorem yields_binaryLevel {operand : Parser SpelledExpr} {R : Reading SpelledExpr}
    {signs : List String} {marks : List Char} (htakes : Reading.Takes 1 R)
    (hoperand : ∀ ⦃cs e rest⦄, R cs e rest → cs.length ≤ limit + 1 → Avoids marks rest →
      Yields ExprOf.unplaced operand cs e rest)
    (hsigns : ∀ s ∈ signs, Token.IsSign s) {levelMarks : List Char} (hsubset : marks ⊆ levelMarks)
    (hmarks : ∀ s ∈ signs, ∃ c ∈ s.toList.head?, c ∈ levelMarks ∧ c ∉ marks)
    {construct opConstruct : Construct} {e : SpelledExpr}
    (h : Language.binaryLevel signs R cs e rest) (hlength : cs.length ≤ limit + 1)
    (hrest : Avoids levelMarks rest) :
    Yields ExprOf.unplaced (binaryLevel limit construct opConstruct signs operand) cs e rest := by
  obtain ⟨first, mid, hfirst, others, _, hothers, rfl, rfl⟩ := h
  have hitemTakes := Language.takes_binaryItem hsigns htakes.zero
  have hitemFirst : ∀ ⦃cs other rest⦄, (do
      let op ← Language.operator signs binaryOp
      let right ← R
      return (op, right) : Reading _) cs other rest → Avoids marks cs := by
    rintro cs other rest ⟨op, mid, hop, -⟩
    have hstarts : Reading.Starts (fun c => c ∉ marks) (Language.operator signs binaryOp) :=
      (Language.starts_anySign fun s hs => by
        obtain ⟨c, hc, -, hnot⟩ := hmarks s hs
        exact ⟨c, hc, by simpa using hnot⟩).map _
    exact hstarts.avoids (by simp) hop
  have hmid : Avoids marks mid := Reading.of_star hothers hitemFirst (hrest.mono hsubset)
  have hfirstTakes := htakes hfirst
  have hothersLength := Reading.length_add_length_le hitemTakes hothers
  refine Yields.named ((hoperand hfirst hlength hmid).bind fun first' hfirst' => ?_) _
  have hmany : Yields (List.map fun other => (other.2.1, other.2.2.unplaced))
      (Parser.many limit (do
        let op ← operator opConstruct signs binaryOp
        let right ← operand
        pure (op.1, op.2, right))) mid others rest := by
    refine yields_many (n := limit) hothers hitemTakes.zero ?_ hitemFirst (hrest.mono hsubset)
      (Fails.bind (fails_operator hrest fun s hs => ?_) _) (by omega) (by omega)
    · rintro cs _ rest ⟨op, mid, hop, right, _, hright, rfl, rfl⟩ hlength hrest
      have hopTakes := Language.takes_operator hsigns binaryOp hop
      refine (yields_operator hop).bind fun op' hop' => ?_
      refine (hoperand hright (by omega) hrest).bind fun right' hright' => yields_pure ?_
      rw [← hop', ← hright']
    · obtain ⟨c, hc, hmark, -⟩ := hmarks s hs
      exact ⟨c, hc, hmark⟩
  refine hmany.bind fun others' hothers' => yields_pure ?_
  rw [unplaced_foldl_binary, hfirst', hothers']

theorem yields_product (hE : ReadsUpTo limit expr E) {e : SpelledExpr}
    (h : Language.product E cs e rest) (hlength : cs.length ≤ limit + 1)
    (hrest : Avoids productMarks rest) : Yields ExprOf.unplaced (product limit expr) cs e rest :=
  yields_binaryLevel (Language.takes_unary hE.takes.zero)
    (fun _ _ _ he hlength hrest => yields_unary hE he hlength hrest) (by decide) (by decide)
    (by decide) h hlength hrest

theorem yields_sum (hE : ReadsUpTo limit expr E) {e : SpelledExpr}
    (h : Language.sum E cs e rest) (hlength : cs.length ≤ limit + 1)
    (hrest : Avoids sumMarks rest) : Yields ExprOf.unplaced (sum limit expr) cs e rest :=
  yields_binaryLevel (Language.takes_product hE.takes.zero)
    (fun _ _ _ he hlength hrest => yields_product hE he hlength hrest) (by decide) (by decide)
    (by decide) h hlength hrest

theorem yields_comparison (hE : ReadsUpTo limit expr E) {e : SpelledExpr}
    (h : Language.comparison E cs e rest) (hlength : cs.length ≤ limit + 1)
    (hrest : Avoids compareMarks rest) :
    Yields ExprOf.unplaced (comparison limit expr) cs e rest := by
  obtain ⟨left, mid, hleft, other, last, hother, htree⟩ := h
  have hleftTakes := Language.takes_sum hE.takes.zero hleft
  refine Yields.named (yields_here_bind fun pos => ?_) _
  rcases Reading.optional_iff.mp hother with ⟨item, hitem, rfl⟩ | ⟨rfl, rfl⟩
  · obtain ⟨taken, behind, htaken, right, _, hright, rfl, rfl⟩ := hitem
    obtain ⟨rfl, rfl⟩ := htree
    have hmid : Avoids sumMarks mid :=
      (Language.starts_anySign (p := (· ∉ sumMarks)) (by decide)).avoids (by decide) htaken
    have htakenTakes := Reading.takes_token Language.isToken_compareSigns htaken
    refine (yields_sum hE hleft hlength hmid).bind fun left' hleft' => ?_
    have hsome : Yields (Option.map fun other => (other.1, ExprOf.unplaced other.2))
        (Parser.optional (do
          let taken ← Parser.named .compareSign (Parser.token (Token.anySign Token.compareSigns))
          let right ← sum limit expr
          pure (compareOp? taken, right))) mid (some (compareOp? taken, right)) rest := by
      refine Yields.optional (Yields.bind ((yields_token htaken).named _) fun taken' ht => ?_)
      refine (yields_sum hE hright (by omega) (hrest.mono (by decide))).bind fun right' hr => ?_
      exact yields_pure (by rw [← ht, ← hr]; rfl)
    refine hsome.bind fun other' ho => ?_
    obtain ⟨⟨op, right'⟩, rfl, hpair⟩ := Option.map_eq_some_iff.mp ho
    obtain ⟨rfl, rfl⟩ := Prod.mk.inj hpair
    rw [← hleft']
    cases compareOp? taken <;> exact yields_pure rfl
  · obtain ⟨rfl, rfl⟩ := htree
    have hnone : Yields (Option.map fun other => (other.1, ExprOf.unplaced other.2))
        (Parser.optional (do
          let taken ← Parser.named .compareSign (Parser.token (Token.anySign Token.compareSigns))
          let right ← sum limit expr
          pure (compareOp? taken, right))) rest none rest :=
      Fails.optional (Fails.bind ((fails_token
        (Token.anySign_of_avoids hrest (by decide))).named _) _)
    refine (yields_sum hE hleft hlength (hrest.mono (by decide))).bind fun left' hleft' => ?_
    refine hnone.bind fun other' ho => ?_
    obtain rfl := Option.map_eq_none_iff.mp ho
    exact yields_pure hleft'

theorem yields_negation (hE : ReadsUpTo limit expr E) {e : SpelledExpr}
    (h : Language.negation E cs e rest) (hlength : cs.length ≤ limit + 1)
    (hrest : Avoids compareMarks rest) : Yields ExprOf.unplaced (negation limit expr) cs e rest := by
  obtain ⟨nots, mid, hnots, operand, _, hoperand, rfl, rfl⟩ := h
  have hnotsTakes : Reading.Takes 1 (Language.operator ["!"] fun _ => ()) :=
    Language.takes_operator (by decide) _
  have hnotsLength := Reading.length_add_length_le hnotsTakes hnots
  have hoperandTakes := Language.takes_comparison hE.takes.zero hoperand
  have hmid : Avoids ['!'] mid := (Language.starts_comparison E).avoids (by decide) hoperand
  refine Yields.named ((yields_operators hnots (by decide) hmid (by decide) (by omega)).bind
    fun nots' hnots' => ?_) _
  refine (yields_comparison hE hoperand (by omega) hrest).bind fun operand' ho => yields_pure ?_
  rw [unplaced_applyNot, ho, ← hnots']
  simp only [List.map_map, Function.comp_def]

theorem yields_conjunction (hE : ReadsUpTo limit expr E) {e : SpelledExpr}
    (h : Language.conjunction E cs e rest) (hlength : cs.length ≤ limit + 1)
    (hrest : Avoids andMarks rest) : Yields ExprOf.unplaced (conjunction limit expr) cs e rest := by
  obtain ⟨first, mid, hfirst, others, _, hothers, rfl, rfl⟩ := h
  have hfirstTakes := Language.takes_negation hE.takes.zero hfirst
  obtain ⟨hmid, hmany⟩ := yields_joined limit (Language.takes_negation hE.takes.zero)
    (fun _ _ _ he hlength hrest => yields_negation hE he (by omega) hrest) (by decide)
    (by decide) (by decide) hothers (by omega) hrest
  refine Yields.named (yields_here_bind fun pos => ?_) _
  refine (yields_negation hE hfirst hlength hmid).bind fun first' hfirst' => ?_
  refine hmany.bind fun others' hothers' => yields_pure ?_
  rw [unplaced_joinLogical, hfirst', hothers']

theorem yields_alternatives (hE : ReadsUpTo limit expr E) {e : SpelledExpr}
    (h : Language.alternatives E cs e rest) (hlength : cs.length ≤ limit + 1)
    (hrest : Avoids expressionMarks rest) :
    Yields ExprOf.unplaced (alternatives limit expr) cs e rest := by
  obtain ⟨bar, start, hbar, first, mid, hfirst, others, _, hothers, rfl, rfl⟩ := h
  have hbarTakes := Language.takes_bar hbar
  have hfirstTakes := Language.takes_conjunction hE.takes.zero hfirst
  obtain ⟨hmid, hmany⟩ := yields_joined limit (Language.takes_conjunction hE.takes.zero)
    (fun _ _ _ he hlength hrest => yields_conjunction hE he (by omega) hrest) (by decide)
    (by decide) (by decide) hothers (by omega) hrest
  have hoptional : Yields (Option.map id) (Parser.optional (sign "|")) cs bar start := by
    rcases Reading.optional_iff.mp hbar with ⟨taken, htaken, rfl⟩ | ⟨rfl, rfl⟩
    · exact (yields_sign htaken).optional
    · have havoids : Avoids ['|'] start :=
        (Language.starts_conjunction E).avoids (by decide) hfirst
      exact (fails_sign havoids (by decide)).optional
  refine Yields.named (yields_here_bind fun pos => hoptional.bind fun _ _ => ?_) _
  refine (yields_conjunction hE hfirst (by omega) hmid).bind fun first' hfirst' => ?_
  refine hmany.bind fun others' hothers' => yields_pure ?_
  rw [unplaced_joinLogical, hfirst', hothers']

theorem fails_expression (length : Nat) (cs : List Char) :
    Fails (expression length) (')' :: cs) := by
  refine (sound_expression length).fails fun e rest h => ?_
  have havoids : Avoids [')'] (')' :: cs) :=
    (Language.starts_expression length).avoids (by decide) h
  exact avoids_cons.mp havoids (by decide)

/-- A text that is an expression at any depth is read, since its length bounds the nesting. -/
theorem readsUpTo_expression (length depth : Nat) :
    ReadsUpTo length (expression length) (Language.expression depth) := by
  refine ⟨Language.takes_expression depth, fails_expression length, ?_⟩
  induction length generalizing depth with
  | zero =>
    intro cs e rest h hlength hrest
    have htakes := Language.takes_expression depth h
    omega
  | succ length ih =>
    intro cs e rest h hlength hrest
    cases depth with
    | zero => exact h.elim
    | succ depth =>
      exact yields_alternatives
        ⟨Language.takes_expression depth, fails_expression length, ih depth⟩ h hlength hrest

end Expressions

/-! ### Statements -/

/-- The text goes on with a keyword that ends a block. -/
def EndsBlock (cs : List Char) : Prop :=
  ∃ taken behind, Token.word cs = some (taken, behind) ∧
    (taken = "elif".toList ∨ taken = "else".toList ∨ taken = "fi".toList)

section Statements

variable {limit depth : Nat} {block : Parser (List SpelledStatement)}
  {B : Reading (List SpelledStatement)}

theorem yields_keyword {construct : Construct} {name : String} {u : Unit}
    (h : Language.keyword name cs u rest) : Yields id (keyword construct name) cs u rest := by
  obtain ⟨taken, mid, htaken, rfl, rfl⟩ := h
  exact Yields.named ((yields_token htaken).bind fun _ _ => yields_pure rfl) _

theorem avoids_of_keyword {name : String} {u : Unit} (h : Language.keyword name cs u rest) :
    Avoids statementMarks cs :=
  (Language.starts_keyword name).avoids (by decide) h

theorem word_of_keyword {name : String} {u : Unit} (h : Language.keyword name cs u rest) :
    ∃ behind, Token.word cs = some (name.toList, behind) := by
  obtain ⟨taken, mid, ⟨behind, hscan, -⟩, -⟩ := h
  rw [Token.keyword_eq, Token.wordWith_eq_some] at hscan
  obtain ⟨hword, htaken⟩ := hscan
  obtain rfl : taken = name.toList := by simpa using htaken
  exact ⟨behind, hword⟩

theorem endsBlock_of_keyword {name : String} {u : Unit} (h : Language.keyword name cs u rest)
    (hname : name ∈ ["elif", "else", "fi"]) : EndsBlock cs := by
  obtain ⟨behind, hword⟩ := word_of_keyword h
  refine ⟨name.toList, behind, hword, ?_⟩
  simp only [List.mem_cons, List.not_mem_nil, or_false] at hname
  rcases hname with rfl | rfl | rfl <;> simp

theorem fails_keyword {construct : Construct} {name : String} {taken behind : List Char}
    (h : Token.word cs = some (taken, behind)) (hne : taken ≠ name.toList) :
    Fails (keyword construct name) cs := by
  refine (sound_keyword construct name).fails fun u rest hkeyword => ?_
  obtain ⟨behind', hword⟩ := word_of_keyword hkeyword
  exact hne (Prod.mk.inj (Option.some.inj (h.symm.trans hword))).1

theorem yields_directive {construct : Construct} {mark : String} {inline : Bool}
    (hmark : Token.IsSign mark) {d : SpelledDirective}
    (h : Language.directive (Language.expression depth) mark inline cs d rest)
    (hlength : cs.length ≤ limit + 1) (hrest : Avoids callMarks rest) :
    Yields DirectiveOf.unplaced (directive limit construct mark inline) cs d rest := by
  obtain ⟨_, mid, hsign, name, behind, hname, args, _, hargs, rfl, rfl⟩ := h
  have hsignTakes := Language.takes_sign hmark hsign
  have hnameTakes := Language.takes_bareName hname
  refine Yields.named (yields_here_bind fun pos => (yields_sign hsign).bind fun _ _ => ?_) _
  refine (yields_bareName hname).bind fun name' hname' => ?_
  have hoptional : Yields (Option.map (List.map ExprOf.unplaced))
      (Parser.optional (arguments limit (expression limit))) behind args rest := by
    rcases Reading.optional_iff.mp hargs with ⟨es, hes, rfl⟩ | ⟨rfl, rfl⟩
    · exact (yields_arguments (readsUpTo_expression limit depth) hes (by omega)).optional
    · exact ((fails_sign hrest (by decide)).bind _).named _ |>.optional
  refine hoptional.bind fun args' hargs' => yields_pure ?_
  rw [← hargs', ← hname']
  simp only [DirectiveOf.unplaced, unplacedArgs_eq]
  cases args' <;> rfl

theorem yields_assignment {s : SpelledStatement}
    (h : Language.assignment (Language.expression depth) cs s rest)
    (hlength : cs.length ≤ limit + 1) (hrest : Avoids expressionMarks rest) :
    Yields StatementOf.unplaced (assignment limit) cs s rest := by
  obtain ⟨field, mid, hfield, _, behind, hsign, value, _, hvalue, rfl, rfl⟩ := h
  have hfieldTakes := Language.takes_fieldName hfield
  have hsignTakes := Reading.takes_token Token.isToken_assignSign hsign
  refine Yields.named (yields_here_bind fun pos => (yields_fieldName hfield).bind fun f hf => ?_) _
  refine ((yields_token hsign).named _).bind fun _ _ => ?_
  refine ((readsUpTo_expression limit depth).yields hvalue (by omega) hrest).bind fun v hv => ?_
  exact yields_pure (by rw [← hf, ← hv]; rfl)

/-- The parser of blocks reads the blocks of texts of at most the given length. -/
structure ReadsBlocks (length : Nat) (block : Parser (List SpelledStatement))
    (B : Reading (List SpelledStatement)) : Prop where
  takes : Reading.Takes 0 B
  yields : ∀ ⦃cs ss rest⦄, B cs ss rest → cs.length ≤ length → EndsBlock rest →
    Yields (List.map StatementOf.unplaced) block cs ss rest

theorem yields_branch (hB : ReadsBlocks limit block B) {construct opening : Construct}
    {name : String} {b : SpelledBranch}
    (h : Language.branch (Language.expression depth) name B cs b rest)
    (hlength : cs.length ≤ limit + 1) (hrest : EndsBlock rest) :
    Yields BranchOf.unplaced (branch limit construct opening name block) cs b rest := by
  obtain ⟨_, mid, hname, condition, behind, hcondition, _, start, hthen, body, _, hbody, rfl, rfl⟩ :=
    h
  have hnameTakes := Language.takes_keyword name hname
  have hconditionTakes := Language.takes_expression depth hcondition
  have hthenTakes := Language.takes_keyword "then" hthen
  have hbehind : Avoids expressionMarks behind := (avoids_of_keyword hthen).mono (by decide)
  refine Yields.named ((yields_keyword hname).bind fun _ _ => ?_) _
  refine ((readsUpTo_expression limit depth).yields hcondition (by omega) hbehind).bind
    fun c hc => (yields_keyword hthen).bind fun _ _ => ?_
  refine (hB.yields hbody (by omega) hrest).bind fun body' hbody' => yields_pure ?_
  rw [← hc, ← hbody', ← SpelledExpr.unplaced_asCondition, ← unplacedBlock_eq]
  rfl

/-- What follows the branches of a rule ends the last of them. -/
theorem endsBlock_of_otherwise (limit : Nat) (block : Parser (List SpelledStatement))
    {otherwise : Option (List SpelledStatement)} {last : List Char} {u : Unit}
    (h : Reading.optional (do Language.keyword "else"; B) cs otherwise last)
    (hfi : Language.keyword "fi" last u rest) :
    EndsBlock cs ∧ Fails (branch limit .elifBranch .kwElif "elif" block) cs := by
  have hstop : ∀ {taken behind}, Token.word cs = some (taken, behind) → taken ≠ "elif".toList →
      Fails (branch limit .elifBranch .kwElif "elif" block) cs :=
    fun hword hne => Fails.named ((fails_keyword hword hne).bind _) _
  rcases Reading.optional_iff.mp h with ⟨body, ⟨_, mid, hkeyword, -⟩, -⟩ | ⟨-, rfl⟩
  · obtain ⟨behind, hword⟩ := word_of_keyword hkeyword
    exact ⟨endsBlock_of_keyword hkeyword (by decide), hstop hword (by decide)⟩
  · obtain ⟨behind, hword⟩ := word_of_keyword hfi
    exact ⟨endsBlock_of_keyword hfi (by decide), hstop hword (by decide)⟩

theorem yields_otherwise (hB : ReadsBlocks limit block B)
    {otherwise : Option (List SpelledStatement)} {last : List Char} {u : Unit}
    (h : Reading.optional (do Language.keyword "else"; B) cs otherwise last)
    (hfi : Language.keyword "fi" last u rest) (hlength : cs.length ≤ limit + 1) :
    Yields (Option.map (List.map StatementOf.unplaced))
      (Parser.optional (Parser.named .elseBranch do keyword .kwElse "else"; block)) cs otherwise
      last := by
  rcases Reading.optional_iff.mp h with ⟨body, ⟨_, start, hkeyword, hbody⟩, rfl⟩ | ⟨rfl, rfl⟩
  · have hkeywordTakes := Language.takes_keyword "else" hkeyword
    have hlast : EndsBlock last := endsBlock_of_keyword hfi (by decide)
    exact (((yields_keyword hkeyword).bind fun _ _ =>
      hB.yields hbody (by omega) hlast).named _).optional
  · obtain ⟨behind, hword⟩ := word_of_keyword hfi
    exact (((fails_keyword hword (by decide)).bind _).named _).optional

theorem yields_rule (hB : ReadsBlocks limit block B) {s : SpelledStatement}
    (h : Language.rule (Language.expression depth) B cs s rest)
    (hlength : cs.length ≤ limit + 1) :
    Yields StatementOf.unplaced (rule limit block) cs s rest := by
  obtain ⟨first, mid, hfirst, others, behind, hothers, otherwise, last, hotherwise, _, _, hfi,
    rfl, rfl⟩ := h
  have hbranchTakes : ∀ name, Reading.Takes 1
      (Language.branch (Language.expression depth) name B) :=
    Language.takes_branch (Language.takes_expression depth).zero hB.takes
  have hfirstTakes := hbranchTakes "if" hfirst
  have hothersLength := Reading.length_add_length_le (hbranchTakes "elif") hothers
  have hitemFirst : ∀ ⦃cs b rest⦄,
      Language.branch (Language.expression depth) "elif" B cs b rest → EndsBlock cs := by
    rintro cs b rest ⟨_, mid, hkeyword, -⟩
    exact endsBlock_of_keyword hkeyword (by decide)
  obtain ⟨hbehind, hstop⟩ := endsBlock_of_otherwise limit block hotherwise hfi
  have hmid : EndsBlock mid := Reading.of_star hothers hitemFirst hbehind
  have hmany : Yields (List.map BranchOf.unplaced)
      (Parser.many limit (branch limit .elifBranch .kwElif "elif" block)) mid others behind :=
    yields_many (n := limit) hothers (hbranchTakes "elif").zero
      (fun _ _ _ hb hlength hrest => yields_branch hB hb (by omega) hrest) hitemFirst hbehind hstop
      (by omega) (by omega)
  refine Yields.named ((yields_branch hB hfirst hlength hmid).bind fun first' hfirst' => ?_) _
  refine hmany.bind fun others' hothers' => ?_
  refine (yields_otherwise hB hotherwise hfi (by omega)).bind fun otherwise' hotherwise' => ?_
  refine (yields_keyword hfi).bind fun _ _ => yields_pure ?_
  rw [← hfirst', ← hothers', ← hotherwise']
  cases otherwise' <;> simp only [StatementOf.unplaced, unplacedBranches_eq, unplacedBlock_eq] <;>
    rfl

/-! ### Which statement it is -/

theorem fails_rule (h : Token.keyword "if" cs = none) : Fails (rule limit block) cs :=
  ((((((fails_token h).bind _).named _).bind _).named _).bind _).named _

theorem fails_directive {construct : Construct} {mark : String} {inline : Bool}
    (h : Token.sign mark cs = none) : Fails (directive limit construct mark inline) cs :=
  (Parser.fails_here_bind fun _ => (fails_token h).bind _).named _

theorem keyword_of_sign {s : String} {taken : List Char} (h : Language.sign s cs taken rest)
    (hs : s.toList.head? = some '@') (name : String) : Token.keyword name cs = none := by
  obtain ⟨c, cs', rfl, hc⟩ := Language.starts_sign (p := (· = '@')) ⟨'@', hs, rfl⟩ h
  obtain rfl : c = '@' := by simpa using hc
  exact Token.keyword_eq name ▸ Token.wordWith_of_word _ (Token.word_cons_of_not rfl cs')

/-- Between the sign of a directive and its name there is no other sign. -/
theorem inlineSign_of_directive {E : Reading SpelledExpr} {d : SpelledDirective}
    (h : Language.directive E "@" false cs d rest) : Token.sign "@@" cs = none := by
  obtain ⟨_, mid, ⟨behind, hsign, hskip⟩, name, _, hname, -⟩ := h
  obtain ⟨rfl, rfl⟩ := Token.sign_eq_some.mp hsign
  by_contra hinline
  obtain ⟨⟨taken, behind'⟩, hinline⟩ := Option.ne_none_iff_exists'.mp hinline
  obtain ⟨rfl, heq⟩ := Token.sign_eq_some.mp hinline
  obtain ⟨c, cs', rfl, hc⟩ := Language.starts_bareName hname
  obtain rfl : '@' :: behind' = behind := by simpa using heq.symm
  rw [skip_of_endsLayout rfl] at hskip
  obtain ⟨rfl, -⟩ := List.cons.inj hskip
  cases hc

theorem avoids_of_fieldName {spelling : NameSpelling} (h : Language.fieldName cs spelling rest) :
    Avoids ['@'] cs :=
  Language.starts_fieldName.avoids (by decide) h

theorem keyword_of_fieldName {spelling : NameSpelling} (h : Language.fieldName cs spelling rest) :
    Token.keyword "if" cs = none := by
  rcases h with h | h <;> obtain ⟨taken, ⟨behind, hscan, -⟩, -⟩ := Reading.map_iff.mp h
  · exact Token.keyword_of_name hscan (by decide)
  · obtain ⟨cs', rfl⟩ := Token.exists_of_delimited hscan
    exact Token.keyword_eq "if" ▸ Token.wordWith_of_word _ (Token.word_cons_of_not rfl cs')

/-- Behind the name of a function there is no sign of an assignment. -/
theorem fails_assignment_of_call {E : Reading SpelledExpr} {c : String × List SpelledExpr}
    (h : Language.call E cs c rest) : Fails (assignment limit) cs := by
  obtain ⟨function, mid, hfunction, args, _, ⟨_, last, hopen, -⟩, -⟩ := h
  obtain ⟨behind, hname, rfl⟩ := hfunction
  refine (sound_assignment limit).fails ?_
  rintro s rest' ⟨spelling, mid', hfield, _, behind', ⟨_, hassign, -⟩, -⟩
  rcases hfield with hfield | hfield <;>
    obtain ⟨taken, ⟨behind'', hscan, rfl⟩, -⟩ := Reading.map_iff.mp hfield
  · obtain ⟨rfl, rfl⟩ := Prod.mk.inj (Option.some.inj (hname.symm.trans hscan))
    obtain ⟨c, cs', heq, hc⟩ := Language.starts_sign (p := (· = '(')) (by decide) hopen
    obtain rfl : c = '(' := by simpa using hc
    rw [heq] at hassign
    cases hassign
  · obtain ⟨cs', rfl⟩ := Token.exists_of_delimited hscan
    obtain ⟨c, cs'', heq, hc⟩ := Language.starts_bareName ⟨behind, hname, rfl⟩
    obtain ⟨rfl, -⟩ := List.cons.inj heq
    cases hc

/-- A semicolon goes with the construct before it. -/
theorem yields_semicolon {semicolon : Option (List Char)}
    (h : Reading.optional (Language.sign ";") cs semicolon rest)
    (hrest : Avoids statementMarks rest) :
    Avoids expressionMarks cs ∧
      Yields (Option.map id) (Parser.optional (sign ";")) cs semicolon rest := by
  rcases Reading.optional_iff.mp h with ⟨_, hsign, rfl⟩ | ⟨rfl, rfl⟩
  · exact ⟨avoids_of_sign hsign (by decide), (yields_sign hsign).optional⟩
  · exact ⟨hrest.mono (by decide), (fails_sign hrest (by decide)).optional⟩

/-- A rule and directives start otherwise than the name of a field. -/
theorem fails_of_fieldName (limit : Nat) (block : Parser (List SpelledStatement))
    {spelling : NameSpelling} (h : Language.fieldName cs spelling rest) :
    Fails (rule limit block) cs ∧ Fails (inlineDirective limit) cs ∧
      Fails (headerDirective limit) cs := by
  have hsign : ∀ mark ∈ ["@@", "@"], Token.sign mark cs = none := fun mark hmark =>
    Token.sign_of_avoids (avoids_of_fieldName h) (by revert mark; decide)
  exact ⟨fails_rule (keyword_of_fieldName h), fails_directive (hsign "@@" (by decide)),
    fails_directive (hsign "@" (by decide))⟩

theorem yields_directiveStatement {construct : Construct} {mark : String} {inline : Bool}
    (hmark : Token.IsSign mark) {d : SpelledDirective}
    (h : Language.directive (Language.expression depth) mark inline cs d rest)
    (hlength : cs.length ≤ limit + 1) (hrest : Avoids expressionMarks rest) :
    Yields StatementOf.unplaced (.directive <$> directive limit construct mark inline) cs
      (.directive d) rest :=
  (yields_directive hmark h hlength (hrest.mono (by decide))).map fun _ hview =>
    congrArg StatementOf.directive hview

theorem yields_statementOver (hB : ReadsBlocks limit block B) {s : SpelledStatement}
    (h : Language.statementOver (Language.expression depth) B cs s rest)
    (hlength : cs.length ≤ limit + 1) (hrest : Avoids statementMarks rest) :
    Yields StatementOf.unplaced (statementOver limit block) cs s rest := by
  obtain ⟨_, mid, h, semicolon, _, hsemicolon, rfl, rfl⟩ := h
  obtain ⟨hmid, hoptional⟩ := yields_semicolon hsemicolon hrest
  refine Yields.bind ?_ fun s' hs' => hoptional.bind fun _ _ => yields_pure hs'
  -- What stands before the right alternative fails, each for how the text starts.
  rcases h with h | h | h | h | h
  · exact (yields_rule hB h hlength).orElse_left _
  · obtain ⟨d, hd, rfl⟩ := Reading.map_iff.mp h
    have hrule : Fails (rule limit block) cs :=
      fails_rule (keyword_of_sign hd.choose_spec.choose_spec.1 rfl _)
    exact .orElse_right hrule
      ((yields_directiveStatement (by decide) hd hlength hmid).orElse_left _)
  · obtain ⟨d, hd, rfl⟩ := Reading.map_iff.mp h
    have hrule : Fails (rule limit block) cs :=
      fails_rule (keyword_of_sign hd.choose_spec.choose_spec.1 rfl _)
    have hinline : Fails (inlineDirective limit) cs := fails_directive (inlineSign_of_directive hd)
    exact .orElse_right hrule (.orElse_right (hinline.map _)
      ((yields_directiveStatement (by decide) hd hlength hmid).orElse_left _))
  · obtain ⟨hrule, hinline, hheader⟩ := fails_of_fieldName limit block h.choose_spec.choose_spec.1
    exact .orElse_right hrule (.orElse_right (hinline.map _)
      (.orElse_right (hheader.map _) ((yields_assignment h hlength hmid).orElse_left _)))
  · obtain ⟨c, hc, rfl⟩ := Reading.map_iff.mp h
    have hfield : Language.fieldName cs _ _ :=
      .inl (Reading.map_iff.mpr ⟨_, hc.choose_spec.choose_spec.1, rfl⟩)
    obtain ⟨hrule, hinline, hheader⟩ := fails_of_fieldName limit block hfield
    refine .orElse_right hrule (.orElse_right (hinline.map _)
      (.orElse_right (hheader.map _) (.orElse_right (fails_assignment_of_call hc) ?_)))
    refine (yields_call (readsUpTo_expression limit depth) hc hlength).map fun _ hview => ?_
    rw [← hview, StatementOf.unplaced, unplacedArgs_eq]
    rfl

theorem avoids_of_endsBlock (h : EndsBlock cs) : Avoids statementMarks cs := by
  obtain ⟨taken, behind, hword, -⟩ := h
  obtain ⟨c, cs', rfl, hc⟩ := Token.exists_of_word hword
  have hmarks : ∀ c ∈ statementMarks, Token.isWordStart c = false := by decide
  rw [avoids_cons]
  intro hmem
  rw [hmarks c hmem] at hc
  cases hc

theorem avoids_of_statement {s : SpelledStatement} (h : Language.statement depth cs s rest) :
    Avoids statementMarks cs :=
  (Language.starts_statement depth).avoids (by decide) h

/-- No statement starts with a keyword that ends a block. -/
theorem not_statement_of_endsBlock (hcs : EndsBlock cs) (s : SpelledStatement)
    (rest : List Char) : ¬ Language.statement depth cs s rest := by
  obtain ⟨taken, behind, hword, htaken⟩ := hcs
  cases depth with
  | zero => exact id
  | succ depth =>
    obtain ⟨c, cs', rfl, hc⟩ := Token.exists_of_word hword
    have hnameless : Token.name (c :: cs') = none := by
      have hkeyword : Token.isKeyword taken = true := by
        rcases htaken with rfl | rfl | rfl <;> decide
      rw [Token.name_eq, Token.wordWith, hword, Option.filter_some, if_neg]
      simp [hkeyword]
    have hbare : ∀ name rest, ¬ Language.bareName (c :: cs') name rest := by
      rintro name rest ⟨behind, hscan, -⟩
      rw [hnameless] at hscan
      cases hscan
    have hmark : ∀ mark taken rest, mark.toList.head? = some '@' →
        ¬ Language.sign mark (c :: cs') taken rest := by
      intro mark taken rest hhead hsign
      obtain ⟨c', cs'', heq, hc'⟩ := Language.starts_sign (p := (· = '@')) ⟨'@', hhead, rfl⟩ hsign
      obtain ⟨rfl, rfl⟩ := List.cons.inj heq
      obtain rfl : c = '@' := by simpa using hc'
      cases hc
    rintro ⟨_, mid, h | h | h | h | h, -⟩
    · obtain ⟨_, _, ⟨_, _, hkeyword, -⟩, -⟩ := h
      obtain ⟨behind', hif⟩ := word_of_keyword hkeyword
      obtain rfl := (Prod.mk.inj (Option.some.inj (hword.symm.trans hif))).1
      revert htaken
      decide
    · obtain ⟨d, ⟨_, _, hsign, -⟩, -⟩ := Reading.map_iff.mp h
      exact hmark _ _ _ rfl hsign
    · obtain ⟨d, ⟨_, _, hsign, -⟩, -⟩ := Reading.map_iff.mp h
      exact hmark _ _ _ rfl hsign
    · obtain ⟨_, _, hfield | hfield, -⟩ := h
      · obtain ⟨name, hname, -⟩ := Reading.map_iff.mp hfield
        exact hbare _ _ hname
      · obtain ⟨_, ⟨_, hscan, -⟩, -⟩ := Reading.map_iff.mp hfield
        obtain ⟨cs'', heq⟩ := Token.exists_of_delimited hscan
        obtain ⟨rfl, -⟩ := List.cons.inj heq
        cases hc
    · obtain ⟨_, ⟨_, _, hname, -⟩, -⟩ := Reading.map_iff.mp h
      exact hbare _ _ hname

theorem yields_statement (length depth : Nat) ⦃cs rest : List Char⦄ ⦃s : SpelledStatement⦄
    (h : Language.statement depth cs s rest) (hlength : cs.length ≤ length)
    (hrest : Avoids statementMarks rest) :
    Yields StatementOf.unplaced (statement length) cs s rest := by
  induction length generalizing depth cs rest s with
  | zero =>
    have htakes := Language.takes_statement depth h
    omega
  | succ length ih =>
    cases depth with
    | zero => exact h.elim
    | succ depth =>
      have htakes := Language.takes_statement depth
      refine yields_statementOver ⟨Reading.takes_star htakes.zero, ?_⟩ h hlength hrest
      intro cs ss rest hss hlength hrest
      have hsslength := Reading.length_add_length_le htakes hss
      have hstop : Fails (statement length) rest :=
        (sound_statement length).fails (not_statement_of_endsBlock hrest)
      exact (yields_many (n := length) hss htakes.zero (fun _ _ _ hs => ih depth hs)
        (fun _ _ _ => avoids_of_statement) (avoids_of_endsBlock hrest) hstop hlength
        (by omega)).named _

theorem yields_headerItem {d : SpelledDirective} (h : Language.headerItem depth cs d rest)
    (hlength : cs.length ≤ limit + 1) (hrest : Avoids statementMarks rest) :
    Yields DirectiveOf.unplaced (headerItem limit) cs d rest := by
  obtain ⟨_, mid, h, semicolon, _, hsemicolon, rfl, rfl⟩ := h
  obtain ⟨hmid, hoptional⟩ := yields_semicolon hsemicolon hrest
  refine (yields_directive (by decide) h hlength (hmid.mono (by decide))).bind fun d' hd' => ?_
  exact hoptional.bind fun _ _ => yields_pure hd'

end Statements

end Grammar

end RecordScript
