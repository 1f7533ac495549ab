import RecordScript.Proofs.Grammar.Language

/-!
# How constructs start

The first character of a construct decides which alternative of the grammar can be read. Nothing that
a program consists of starts with a character that could go on with the expression before it.
-/

namespace RecordScript

/-- The text does not start with one of the given characters. -/
def Avoids (marks cs : List Char) : Prop := ∀ c ∈ cs.head?, c ∉ marks

theorem avoids_nil (marks : List Char) : Avoids marks [] := by
  rintro c ⟨⟩

theorem avoids_cons {marks cs : List Char} {c : Char} : Avoids marks (c :: cs) ↔ c ∉ marks := by
  simp [Avoids]

theorem Avoids.mono {marks marks' cs : List Char} (h : Avoids marks cs) (hsubset : marks' ⊆ marks) :
    Avoids marks' cs :=
  fun c hc hmem => h c hc (hsubset hmem)

namespace Token

/-! ### Tokens and first characters -/

theorem isWordStart_of_isDigit {c : Char} (h : c.isDigit = true) : isWordStart c = false := by
  simp only [Char.isDigit, Bool.and_eq_true, decide_eq_true_eq, UInt32.le_iff_toNat_le] at h
  change 48 ≤ c.val.toNat ∧ c.val.toNat ≤ 57 at h
  have hupper : c.isUpper = false := by
    refine decide_eq_false ?_
    change ¬ (65 ≤ c.val.toNat ∧ c.val.toNat ≤ 90)
    omega
  have hlower : c.isLower = false := by
    refine Bool.and_eq_false_iff.mpr (.inl (decide_eq_false ?_))
    change ¬ 97 ≤ c.val.toNat
    omega
  have hne : c ≠ '_' := by
    rintro rfl
    exact absurd h (by decide)
  exact Bool.or_eq_false_iff.mpr
    ⟨Bool.or_eq_false_iff.mpr ⟨hupper, hlower⟩, decide_eq_false hne⟩

theorem endsLayout_of_isWordStart {c : Char} (h : isWordStart c = true) :
    endsLayout c = true := by
  have hlayout : isLayoutChar c = false := by
    by_contra hc
    rw [isWordStart_of_isLayoutChar (by simpa using hc)] at h
    cases h
  have hcomment : c ≠ '#' := by
    rintro rfl
    cases h
  simp [endsLayout, hlayout, hcomment]

theorem endsLayout_of_isDigit {c : Char} (h : c.isDigit = true) : endsLayout c = true := by
  have hlayout : isLayoutChar c = false := by
    by_contra hc
    rw [isDigit_of_isLayoutChar (by simpa using hc)] at h
    cases h
  have hcomment : c ≠ '#' := by
    rintro rfl
    cases h
  simp [endsLayout, hlayout, hcomment]

section Heads

variable {c : Char} {cs taken rest : List Char}

theorem exists_of_word (h : word cs = some (taken, rest)) :
    ∃ c cs', cs = c :: cs' ∧ isWordStart c = true := by
  obtain ⟨c, cs', rfl, hc, -, -⟩ := word_eq_some.mp h
  exact ⟨c, cs', rfl, hc⟩

theorem exists_of_number (h : number cs = some (taken, rest)) :
    ∃ c cs', cs = c :: cs' ∧ c.isDigit = true := by
  obtain ⟨hwhole, -⟩ := number_cases h
  rcases cs with _ | ⟨c, cs⟩
  · exact absurd rfl hwhole
  · refine ⟨c, cs, rfl, ?_⟩
    by_contra hc
    exact hwhole (by simp [hc])

theorem exists_of_delimited {opening close : Char} {oneLine : Bool}
    (h : delimited opening close oneLine cs = some (taken, rest)) :
    ∃ cs', cs = opening :: cs' := by
  rcases cs with _ | ⟨c, cs⟩
  · cases h
  · by_cases hc : c = opening
    · exact ⟨cs, hc ▸ rfl⟩
    · rw [delimited_cons_of_ne hc] at h
      cases h

theorem word_cons_of_not (hc : isWordStart c = false) (cs : List Char) : word (c :: cs) = none := by
  rw [word, hc]
  rfl

theorem wordWith_of_word (p : List Char → Bool) (h : word cs = none) : wordWith p cs = none := by
  rw [wordWith, h]
  rfl

theorem number_cons_of_not (hc : c.isDigit = false) (cs : List Char) : number (c :: cs) = none := by
  unfold number
  simp [hc]

theorem quoted_cons_of_not (hc : c ∉ ['"', '\'']) (cs : List Char) : quoted (c :: cs) = none := by
  simp only [List.mem_cons, List.not_mem_nil, or_false, not_or] at hc
  rw [quoted, delimited_cons_of_ne hc.1]
  exact delimited_cons_of_ne hc.2 cs

theorem keyword_of_name (h : name cs = some (taken, rest)) {k : String} (hk : k ∈ keywords) :
    keyword k cs = none := by
  rw [name_eq] at h
  obtain ⟨hword, hkeyword⟩ := wordWith_eq_some.mp h
  rw [keyword_eq, wordWith, hword, Option.filter_some, if_neg]
  simp only [decide_eq_true_eq]
  rintro rfl
  have hword : isKeyword k.toList = true := List.any_eq_true.mpr ⟨k, hk, by simp⟩
  simp [hword] at hkeyword

theorem boolean_of_name (h : name cs = some (taken, rest)) : boolean cs = none := by
  rw [name_eq] at h
  obtain ⟨hword, hkeyword⟩ := wordWith_eq_some.mp h
  rw [boolean_eq, wordWith, hword, Option.filter_some, if_neg]
  simp only [decide_eq_true_eq]
  rintro (rfl | rfl) <;> exact absurd hkeyword (by decide)

theorem anySign_of_avoids {signs : List String} {marks : List Char} (h : Avoids marks cs)
    (hsigns : ∀ s ∈ signs, ∃ c ∈ s.toList.head?, c ∈ marks) : anySign signs cs = none := by
  rw [anySign_eq_none]
  rintro s hs ⟨more, rfl⟩
  obtain ⟨c, hc, hmark⟩ := hsigns s hs
  rcases hl : s.toList with _ | ⟨c', l⟩
  · simp [hl] at hc
  · obtain rfl : c' = c := by simpa [hl] using hc
    exact h c' (by simp [hl]) hmark

theorem sign_of_avoids {s : String} {marks : List Char} (h : Avoids marks cs)
    (hs : ∃ c ∈ s.toList.head?, c ∈ marks) : sign s cs = none := by
  have hany : anySign [s] cs = none := anySign_of_avoids h (by simpa using hs)
  rw [anySign_cons] at hany
  cases hsign : sign s cs with
  | none => rfl
  | some p => simp [hsign] at hany

end Heads

end Token

namespace Reading

variable {α β : Type} {R S : Reading α} {f : α → Reading β} {p q : Char → Bool}

/-- Whatever is read starts with a character of the class. -/
def Starts (p : Char → Bool) (R : Reading α) : Prop :=
  ∀ ⦃cs a rest⦄, R cs a rest → ∃ c cs', cs = c :: cs' ∧ p c = true

theorem Starts.bind (h : Starts p R) (f : α → Reading β) : Starts p (R >>= f) := by
  rintro cs b rest ⟨a, mid, ha, -⟩
  exact h ha

theorem Starts.map (h : Starts p R) (g : α → β) : Starts p (g <$> R) := by
  intro cs b rest hb
  obtain ⟨a, ha, -⟩ := map_iff.mp hb
  exact h ha

theorem Starts.orElse (hR : Starts p R) (hS : Starts p S) : Starts p (R <|> S) :=
  fun _ _ _ h => Or.elim h (@hR _ _ _) (@hS _ _ _)

theorem Starts.mono (h : Starts p R) (hpq : ∀ c, p c = true → q c = true) : Starts q R := by
  intro cs a rest ha
  obtain ⟨c, cs', rfl, hc⟩ := h ha
  exact ⟨c, cs', rfl, hpq c hc⟩

theorem starts_nothing (p : Char → Bool) : Starts p (nothing : Reading α) :=
  fun _ _ _ h => False.elim h

/-- What follows things that may be missing starts like these or like itself. -/
theorem Starts.star_bind (hR : Starts p R) {f : List α → Reading β} (hf : ∀ as, Starts p (f as)) :
    Starts p (star R >>= f) := by
  rintro cs b rest ⟨as, mid, has, hb⟩
  cases has with
  | nil => exact hf _ hb
  | cons first others => exact hR first

/-- A text at which something can be read does not start with a character of another class. -/
theorem Starts.avoids (h : Starts p R) {marks : List Char} (hmarks : ∀ c ∈ marks, p c = false)
    {cs rest : List Char} {a : α} (ha : R cs a rest) : Avoids marks cs := by
  obtain ⟨c, cs', rfl, hc⟩ := h ha
  rw [avoids_cons]
  intro hmem
  rw [hmarks c hmem] at hc
  cases hc

theorem starts_token {scan : Parser.Scanner}
    (h : ∀ cs taken rest, scan cs = some (taken, rest) → ∃ c cs', cs = c :: cs' ∧ p c = true) :
    Starts p (token scan) := by
  rintro cs taken rest ⟨behind, hscan, -⟩
  exact h cs taken behind hscan

end Reading

namespace Language

open Reading

/-! ### Constructs and first characters -/

theorem starts_anySign {signs : List String} {p : Char → Bool}
    (h : ∀ s ∈ signs, ∃ c ∈ s.toList.head?, p c = true) : Starts p (token (Token.anySign signs)) := by
  refine starts_token fun cs taken rest hscan => ?_
  obtain ⟨s, hs, hsign⟩ := Token.exists_sign_of_anySign hscan
  obtain ⟨rfl, rfl⟩ := Token.sign_eq_some.mp hsign
  obtain ⟨c, hc, hp⟩ := h s hs
  rcases hl : s.toList with _ | ⟨c', l⟩
  · simp [hl] at hc
  · obtain rfl : c' = c := by simpa [hl] using hc
    exact ⟨c', l ++ rest, rfl, hp⟩

theorem starts_sign {s : String} {p : Char → Bool} (h : ∃ c ∈ s.toList.head?, p c = true) :
    Starts p (sign s) := by
  refine starts_token fun cs taken rest hscan => ?_
  obtain ⟨rfl, rfl⟩ := Token.sign_eq_some.mp hscan
  obtain ⟨c, hc, hp⟩ := h
  rcases hl : s.toList with _ | ⟨c', l⟩
  · simp [hl] at hc
  · obtain rfl : c' = c := by simpa [hl] using hc
    exact ⟨c', l ++ rest, rfl, hp⟩

theorem starts_wordWith (p : List Char → Bool) :
    Starts Token.isWordStart (token (Token.wordWith p)) :=
  starts_token fun _ _ _ h => Token.exists_of_word (Token.wordWith_eq_some.mp h).1

theorem starts_bareName : Starts Token.isWordStart bareName := by
  rw [bareName, Token.name_eq]
  exact starts_wordWith _

theorem starts_keyword (name : String) : Starts Token.isWordStart (keyword name) := by
  rw [keyword, Token.keyword_eq]
  exact (starts_wordWith _).bind _

/-- The characters with which names start. -/
def isNameStart (c : Char) : Bool := Token.isWordStart c || c = '\x7b'

/-- The characters with which primary expressions start. -/
def isPrimaryStart (c : Char) : Bool :=
  isNameStart c || c.isDigit || ['"', '\'', '/', '('].contains c

/-- The characters with which operands start. -/
def isOperandStart (c : Char) : Bool := isPrimaryStart c || ['+', '-'].contains c

/-- The characters with which negations start. -/
def isNegationStart (c : Char) : Bool := isOperandStart c || c = '!'

/-- The characters with which statements start. -/
def isStatementStart (c : Char) : Bool := isNameStart c || c = '@'

theorem starts_fieldName : Starts isNameStart fieldName := by
  refine Starts.orElse ((starts_bareName.map _).mono ?_) (Starts.map (starts_token ?_) _)
  · simp +contextual [isNameStart]
  · intro cs taken rest h
    obtain ⟨cs', rfl⟩ := Token.exists_of_delimited h
    exact ⟨_, cs', rfl, rfl⟩

variable {E : Reading SpelledExpr}

theorem starts_anyLiteral : Starts isPrimaryStart anyLiteral := by
  refine Starts.orElse (Starts.map ?_ _) (Starts.orElse (Starts.map (starts_token ?_) _)
    (Starts.orElse (Starts.map (starts_token ?_) _) (Starts.map (starts_token ?_) _)))
  · rw [Token.boolean_eq]
    exact (starts_wordWith _).mono (by simp +contextual [isPrimaryStart, isNameStart])
  · intro cs taken rest h
    obtain ⟨c, cs', rfl, hc⟩ := Token.exists_of_number h
    exact ⟨c, cs', rfl, by simp [isPrimaryStart, hc]⟩
  · intro cs taken rest h
    rcases Token.quoted_cases h with h | h <;> obtain ⟨cs', rfl⟩ := Token.exists_of_delimited h
    · exact ⟨_, cs', rfl, rfl⟩
    · exact ⟨_, cs', rfl, rfl⟩
  · intro cs taken rest h
    obtain ⟨cs', rfl⟩ := Token.exists_of_delimited h
    exact ⟨_, cs', rfl, rfl⟩

theorem starts_call (E : Reading SpelledExpr) : Starts Token.isWordStart (call E) :=
  starts_bareName.bind _

theorem starts_primary (E : Reading SpelledExpr) : Starts isPrimaryStart (primary E) := by
  refine starts_anyLiteral.orElse (Starts.orElse (((starts_call E).map _).mono ?_)
    (Starts.orElse ((starts_fieldName.map _).mono ?_) (Starts.bind (starts_sign ?_) _)))
  · simp +contextual [isPrimaryStart, isNameStart]
  · simp +contextual [isPrimaryStart]
  · decide

theorem starts_unary (E : Reading SpelledExpr) : Starts isOperandStart (unary E) := by
  refine Starts.star_bind (Starts.map (starts_anySign (by decide)) _) fun _ => ?_
  exact ((starts_primary E).mono (by simp +contextual [isOperandStart])).bind _

theorem starts_sum (E : Reading SpelledExpr) : Starts isOperandStart (sum E) :=
  ((starts_unary E).bind _).bind _

theorem starts_comparison (E : Reading SpelledExpr) : Starts isOperandStart (comparison E) :=
  (starts_sum E).bind _

theorem starts_negation (E : Reading SpelledExpr) : Starts isNegationStart (negation E) := by
  refine Starts.star_bind (Starts.map (starts_anySign (by decide)) _) fun _ => ?_
  exact ((starts_comparison E).mono (by simp +contextual [isNegationStart])).bind _

theorem starts_conjunction (E : Reading SpelledExpr) : Starts isNegationStart (conjunction E) :=
  (starts_negation E).bind _

/-- The characters with which expressions start. -/
def isExpressionStart (c : Char) : Bool := isNegationStart c || c = '|'

theorem starts_expression (depth : Nat) : Starts isExpressionStart (expression depth) := by
  cases depth with
  | zero => exact starts_nothing _
  | succ depth =>
    rintro cs e rest ⟨bar, mid, hbar, first, last, hfirst, -⟩
    rcases optional_iff.mp hbar with ⟨taken, htaken, -⟩ | ⟨-, rfl⟩
    · exact starts_sign (by decide) htaken
    · exact (starts_conjunction _).mono (by simp +contextual [isExpressionStart]) hfirst

theorem starts_directive (E : Reading SpelledExpr) (inline : Bool) {mark : String}
    (hmark : mark.toList.head? = some '@') : Starts isStatementStart (directive E mark inline) :=
  Starts.bind (starts_sign ⟨'@', hmark, rfl⟩) _

theorem starts_bareStatement (E : Reading SpelledExpr) (block : Reading (List SpelledStatement)) :
    Starts isStatementStart (bareStatement E block) := by
  have hword : ∀ c, Token.isWordStart c = true → isStatementStart c = true := by
    simp +contextual [isStatementStart, isNameStart]
  have hname : ∀ c, isNameStart c = true → isStatementStart c = true := by
    simp +contextual [isStatementStart]
  have hrule : Starts isStatementStart (rule E block) :=
    (((starts_keyword "if").mono hword).bind _).bind _
  have hassignment : Starts isStatementStart (assignment E) := (starts_fieldName.mono hname).bind _
  exact hrule.orElse (((starts_directive E true rfl).map _).orElse
    (((starts_directive E false rfl).map _).orElse
      (hassignment.orElse (((starts_call E).mono hword).map _))))

theorem starts_statement (depth : Nat) : Starts isStatementStart (statement depth) := by
  cases depth with
  | zero => exact starts_nothing _
  | succ depth => exact (starts_bareStatement _ _).bind _

theorem starts_headerItem (depth : Nat) : Starts isStatementStart (headerItem depth) :=
  (starts_directive _ false rfl).bind _

end Language

end RecordScript
