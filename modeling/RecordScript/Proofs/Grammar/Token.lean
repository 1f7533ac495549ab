import RecordScript.Grammar.Token

/-!
# What tokens take

A token takes a part of the text that is not empty and leaves the rest as it is. White space behind
the text does not change what is taken, so texts can be put together without running the last token
of one into the first of the next.
-/

namespace RecordScript

/-- What holds of all characters of a list is decided along the list, even where all characters that
there are can be listed. -/
instance (priority := high) decidableForallChar (p : Char → Prop) [DecidablePred p]
    (cs : List Char) : Decidable (∀ c ∈ cs, p c) :=
  List.decidableBAll p cs

/-- Whether the character that is there, if there is one, has a property. -/
instance (priority := high) decidableExistsChar (p : Char → Prop) [DecidablePred p]
    (o : Option Char) : Decidable (∃ c ∈ o, p c) :=
  match o with
  | some c => decidable_of_iff (p c) (by simp)
  | none => isFalse (by simp)

/-- What scanners of tokens have in common. -/
structure Parser.Scanner.IsToken (scan : Parser.Scanner) : Prop where
  split : ∀ {cs taken rest}, scan cs = some (taken, rest) → taken ++ rest = cs
  ne_nil : ∀ {cs taken rest}, scan cs = some (taken, rest) → taken ≠ []
  apart : ∀ {cs taken rest gap} (more : List Char), isLayoutChar gap = true →
    scan cs = some (taken, rest) → scan (cs ++ gap :: more) = some (taken, rest ++ gap :: more)

namespace Token

open Parser.Scanner (IsToken)

/-- A scanner answers the same for a text whether or not more follows it behind white space. -/
def StopsAtLayout (scan : Parser.Scanner) : Prop :=
  ∀ ⦃gap⦄, isLayoutChar gap = true → ∀ cs more,
    scan (cs ++ gap :: more) = (scan cs).map fun (taken, rest) => (taken, rest ++ gap :: more)

theorem StopsAtLayout.apart {scan : Parser.Scanner} (h : StopsAtLayout scan)
    {cs taken rest : List Char} {gap : Char} (more : List Char) (hgap : isLayoutChar gap = true)
    (hscan : scan cs = some (taken, rest)) :
    scan (cs ++ gap :: more) = some (taken, rest ++ gap :: more) := by
  rw [h hgap, hscan]
  rfl

theorem mem_of_isLayoutChar {c : Char} (h : isLayoutChar c = true) :
    c ∈ [' ', '\t', '\r', '\n'] := by
  simpa [isLayoutChar, or_assoc] using h

theorem isWordStart_of_isLayoutChar {c : Char} (h : isLayoutChar c = true) :
    isWordStart c = false :=
  (by decide : ∀ c ∈ [' ', '\t', '\r', '\n'], isWordStart c = false) c (mem_of_isLayoutChar h)

theorem isWordChar_of_isLayoutChar {c : Char} (h : isLayoutChar c = true) :
    isWordChar c = false :=
  (by decide : ∀ c ∈ [' ', '\t', '\r', '\n'], isWordChar c = false) c (mem_of_isLayoutChar h)

theorem isDigit_of_isLayoutChar {c : Char} (h : isLayoutChar c = true) : c.isDigit = false :=
  (by decide : ∀ c ∈ [' ', '\t', '\r', '\n'], c.isDigit = false) c (mem_of_isLayoutChar h)

theorem ne_of_isLayoutChar {c c' : Char} (h : isLayoutChar c = true)
    (h' : isLayoutChar c' = false) : c ≠ c' := by
  rintro rfl
  cases h.symm.trans h'

section Gap

variable {p : Char → Bool} {gap : Char}

theorem takeWhile_gap (hp : p gap = false) (cs more : List Char) :
    (cs ++ gap :: more).takeWhile p = cs.takeWhile p := by
  induction cs with
  | nil => simp [hp]
  | cons c cs ih =>
    rw [List.cons_append, List.takeWhile_cons, List.takeWhile_cons, ih]

theorem dropWhile_gap (hp : p gap = false) (cs more : List Char) :
    (cs ++ gap :: more).dropWhile p = cs.dropWhile p ++ gap :: more := by
  induction cs with
  | nil => simp [hp]
  | cons c cs ih =>
    rw [List.cons_append, List.dropWhile_cons, List.dropWhile_cons]
    split
    · exact ih
    · rfl

end Gap

/-! ### Words -/

theorem word_eq_some {cs taken rest : List Char} :
    word cs = some (taken, rest) ↔ ∃ c cs', cs = c :: cs' ∧ isWordStart c = true ∧
      taken = c :: cs'.takeWhile isWordChar ∧ rest = cs'.dropWhile isWordChar := by
  cases cs with
  | nil => simp [word]
  | cons c cs =>
    rw [word]
    by_cases hc : isWordStart c = true
    · rw [if_pos hc]
      constructor
      · rintro h
        cases h
        exact ⟨c, cs, rfl, hc, rfl, rfl⟩
      · rintro ⟨c', cs', h, -, rfl, rfl⟩
        cases h
        rfl
    · simp [hc]

theorem stopsAtLayout_word : StopsAtLayout word := by
  intro gap hgap cs more
  have hword := isWordChar_of_isLayoutChar hgap
  cases cs with
  | nil =>
    simp [word, isWordStart_of_isLayoutChar hgap]
  | cons c cs =>
    simp only [List.cons_append, word]
    rw [takeWhile_gap hword, dropWhile_gap hword]
    split <;> rfl

theorem isToken_word : IsToken word where
  split h := by
    obtain ⟨c, cs, rfl, -, rfl, rfl⟩ := word_eq_some.mp h
    rw [List.cons_append, List.takeWhile_append_dropWhile]
  ne_nil h := by
    obtain ⟨c, cs, -, -, rfl, -⟩ := word_eq_some.mp h
    exact List.cons_ne_nil _ _
  apart := stopsAtLayout_word.apart

/-- A scanner of the words with a property. -/
def wordWith (p : List Char → Bool) : Parser.Scanner := fun cs =>
  (word cs).filter fun (taken, _) => p taken

theorem wordWith_eq_some {p : List Char → Bool} {cs taken rest : List Char} :
    wordWith p cs = some (taken, rest) ↔ word cs = some (taken, rest) ∧ p taken = true := by
  rw [wordWith, Option.filter_eq_some_iff]

theorem isToken_wordWith (p : List Char → Bool) : IsToken (wordWith p) where
  split h := isToken_word.split (wordWith_eq_some.mp h).1
  ne_nil h := isToken_word.ne_nil (wordWith_eq_some.mp h).1
  apart more hgap h := by
    obtain ⟨hword, hp⟩ := wordWith_eq_some.mp h
    exact wordWith_eq_some.mpr ⟨isToken_word.apart more hgap hword, hp⟩

theorem keyword_eq (n : String) : keyword n = wordWith (· = n.toList) := by
  funext cs
  unfold keyword wordWith
  rcases word cs with _ | ⟨taken, rest⟩
  · rfl
  · by_cases h : taken = n.toList <;> simp [Option.filter, h]

theorem name_eq : name = wordWith (!isKeyword ·) := by
  funext cs
  unfold name wordWith
  rcases word cs with _ | ⟨taken, rest⟩
  · rfl
  · cases h : isKeyword taken <;> simp [Option.filter, h]

theorem boolean_eq :
    boolean = wordWith fun taken => taken = "true".toList ∨ taken = "false".toList := by
  funext cs
  unfold boolean wordWith
  rcases word cs with _ | ⟨taken, rest⟩
  · rfl
  · by_cases h : taken = "true".toList ∨ taken = "false".toList <;> simp [Option.filter]

theorem isToken_keyword (n : String) : IsToken (keyword n) := keyword_eq n ▸ isToken_wordWith _

theorem isToken_name : IsToken name := name_eq ▸ isToken_wordWith _

theorem isToken_boolean : IsToken boolean := boolean_eq ▸ isToken_wordWith _

/-! ### Numbers -/

theorem stopsAtLayout_number : StopsAtLayout number := by
  intro gap hgap cs more
  have hdigit := isDigit_of_isLayoutChar hgap
  have hpoint : gap ≠ '.' := ne_of_isLayoutChar hgap rfl
  unfold number
  rw [takeWhile_gap hdigit, dropWhile_gap hdigit]
  by_cases hwhole : cs.takeWhile Char.isDigit = []
  · simp [hwhole]
  · simp only [hwhole, if_false]
    rcases cs.dropWhile Char.isDigit with _ | ⟨c, _ | ⟨d, rest⟩⟩
    · simp [hpoint]
    · by_cases hc : c = '.'
      · subst hc
        simp [hdigit]
      · simp [hc]
    · by_cases hc : c = '.'
      · subst hc
        simp only [List.cons_append]
        rw [takeWhile_gap hdigit, dropWhile_gap hdigit]
        split <;> rfl
      · simp [hc]

theorem number_cases {cs taken rest : List Char} (h : number cs = some (taken, rest)) :
    cs.takeWhile Char.isDigit ≠ [] ∧
      ((∃ d more, cs.dropWhile Char.isDigit = '.' :: d :: more ∧
          taken = cs.takeWhile Char.isDigit ++ '.' :: d :: more.takeWhile Char.isDigit ∧
          rest = more.dropWhile Char.isDigit) ∨
        taken = cs.takeWhile Char.isDigit ∧ rest = cs.dropWhile Char.isDigit) := by
  unfold number at h
  by_cases hwhole : cs.takeWhile Char.isDigit = []
  · simp [hwhole] at h
  · simp only [hwhole, if_false] at h
    refine ⟨hwhole, ?_⟩
    split at h
    · rename_i d more hdrop
      split at h
      · cases h
        exact .inl ⟨d, more, hdrop, rfl, rfl⟩
      · cases h
        exact .inr ⟨rfl, hdrop.symm⟩
    · cases h
      exact .inr ⟨rfl, rfl⟩

theorem isToken_number : IsToken number where
  split {cs taken rest} h := by
    have hcs : cs.takeWhile Char.isDigit ++ cs.dropWhile Char.isDigit = cs :=
      List.takeWhile_append_dropWhile
    obtain ⟨-, ⟨d, more, hdrop, rfl, rfl⟩ | ⟨rfl, rfl⟩⟩ := number_cases h
    · rw [List.append_assoc, List.cons_append, List.cons_append, List.takeWhile_append_dropWhile,
        ← hdrop, hcs]
    · exact hcs
  ne_nil {cs taken rest} h := by
    obtain ⟨hwhole, ⟨d, more, -, rfl, -⟩ | ⟨rfl, -⟩⟩ := number_cases h
    · exact List.append_ne_nil_of_left_ne_nil hwhole _
    · exact hwhole
  apart := stopsAtLayout_number.apart

/-! ### Literals between delimiters -/

/-- What can stand between the delimiters of a literal: a backslash takes the next character with
it, and other characters neither close the literal nor end a line that must not be ended. -/
inductive IsBody (close : Char) (oneLine : Bool) : List Char → Prop
  | nil : IsBody close oneLine []
  | escape {c : Char} {inner : List Char} (inside : IsBody close oneLine inner) :
      IsBody close oneLine ('\\' :: c :: inner)
  | plain {c : Char} {inner : List Char} (notBackslash : c ≠ '\\') (notClose : c ≠ close)
      (sameLine : ¬ (oneLine = true ∧ (c = '\n' ∨ c = '\r'))) (inside : IsBody close oneLine inner) :
      IsBody close oneLine (c :: inner)

section Delimited

variable {opening close : Char} {oneLine : Bool}

theorem body_escape (c : Char) (cs : List Char) :
    body close oneLine ('\\' :: c :: cs) =
      (body close oneLine cs).map fun (inner, rest) => ('\\' :: c :: inner, rest) := by
  rw [body]
  cases body close oneLine cs <;> rfl

theorem body_close (hclose : close ≠ '\\') (cs : List Char) :
    body close oneLine (close :: cs) = some ([], cs) := by
  rw [body]
  · simp
  · exact fun c cs' h => absurd h hclose

theorem body_cons {c : Char} (hc : c ≠ '\\') (hne : c ≠ close) (cs : List Char) :
    body close oneLine (c :: cs) =
      if oneLine = true ∧ (c = '\n' ∨ c = '\r') then none
      else (body close oneLine cs).map fun (inner, rest) => (c :: inner, rest) := by
  rw [body]
  · simp only [hc, hne, if_false]
    cases body close oneLine cs <;> simp
  · exact fun c' cs' h => absurd h hc

theorem body_append (hclose : close ≠ '\\') {inner : List Char} (h : IsBody close oneLine inner)
    (rest : List Char) : body close oneLine (inner ++ close :: rest) = some (inner, rest) := by
  induction h with
  | nil => exact body_close hclose rest
  | escape _ ih => rw [List.cons_append, List.cons_append, body_escape, ih, Option.map_some]
  | plain notBackslash notClose sameLine _ ih =>
    rw [List.cons_append, body_cons notBackslash notClose, if_neg sameLine, ih, Option.map_some]

/-- A body is read up to the first character that closes it. -/
theorem body_eq_some (hclose : close ≠ '\\') {cs inner rest : List Char} :
    body close oneLine cs = some (inner, rest) ↔
      IsBody close oneLine inner ∧ cs = inner ++ close :: rest := by
  constructor
  · intro h
    fun_induction body close oneLine cs generalizing inner with
    | case1 => cases h
    | case2 c cs inner' rest' hbody ih =>
      cases h
      obtain ⟨hinner, rfl⟩ := ih hbody
      exact ⟨.escape hinner, rfl⟩
    | case3 => cases h
    | case4 c cs =>
      cases h
      exact ⟨.nil, rfl⟩
    | case5 => cases h
    | case6 c cs _ hc hline inner' rest' hbody ih =>
      cases h
      obtain ⟨hinner, rfl⟩ := ih hbody
      simp only [Bool.or_eq_true, Bool.and_eq_true, decide_eq_true_eq, not_or] at hline
      exact ⟨.plain hline.1 hc hline.2 hinner, rfl⟩
    | case7 => cases h
  · rintro ⟨hinner, rfl⟩
    exact body_append hclose hinner rest

/-- A literal is its body with the characters around it. -/
theorem delimited_eq_some (hclose : close ≠ '\\') {cs taken rest : List Char} :
    delimited opening close oneLine cs = some (taken, rest) ↔
      ∃ inner, IsBody close oneLine inner ∧ taken = opening :: (inner ++ [close]) ∧
        cs = taken ++ rest := by
  cases cs with
  | nil =>
    rw [delimited]
    constructor
    · rintro ⟨⟩
    · rintro ⟨inner, -, rfl, h⟩
      cases h
  | cons c cs =>
    rw [delimited]
    by_cases hc : c = opening
    · subst hc
      rw [if_pos rfl]
      constructor
      · intro h
        split at h
        · rename_i inner rest' hbody
          cases h
          obtain ⟨hinner, rfl⟩ := (body_eq_some hclose).mp hbody
          exact ⟨inner, hinner, rfl, by simp⟩
        · cases h
      · rintro ⟨inner, hinner, rfl, heq⟩
        obtain rfl : cs = inner ++ close :: rest := by simpa using heq
        rw [body_append hclose hinner]
    · rw [if_neg hc]
      constructor
      · rintro ⟨⟩
      · rintro ⟨inner, -, rfl, heq⟩
        exact absurd (List.cons.inj heq).1 hc

theorem isToken_delimited (hclose : close ≠ '\\') :
    IsToken (delimited opening close oneLine) where
  split h := by
    obtain ⟨inner, -, -, rfl⟩ := (delimited_eq_some hclose).mp h
    rfl
  ne_nil h := by
    obtain ⟨inner, -, rfl, -⟩ := (delimited_eq_some hclose).mp h
    exact List.cons_ne_nil _ _
  apart more _ h := by
    obtain ⟨inner, hinner, htaken, rfl⟩ := (delimited_eq_some hclose).mp h
    exact (delimited_eq_some hclose).mpr ⟨inner, hinner, htaken, List.append_assoc _ _ _⟩

end Delimited

theorem isToken_regex : IsToken regex := isToken_delimited (by decide)

theorem isToken_bracedName : IsToken bracedName := isToken_delimited (by decide)

theorem quoted_cases {cs taken rest : List Char} (h : quoted cs = some (taken, rest)) :
    delimited '"' '"' false cs = some (taken, rest) ∨
      delimited '\'' '\'' false cs = some (taken, rest) := by
  unfold quoted at h
  cases hd : delimited '"' '"' false cs with
  | none => exact .inr (by simpa [hd] using h)
  | some p => exact .inl (by simpa [hd] using h)

/-- A scanner of literals fails where another opening character stands. -/
theorem delimited_cons_of_ne {opening close c : Char} {oneLine : Bool} (hc : c ≠ opening)
    (cs : List Char) : delimited opening close oneLine (c :: cs) = none := by
  rw [delimited, if_neg hc]

theorem quoted_of_single {cs taken rest : List Char}
    (h : delimited '\'' '\'' false cs = some (taken, rest)) : quoted cs = some (taken, rest) := by
  obtain ⟨inner, -, rfl, rfl⟩ := (delimited_eq_some (by decide)).mp h
  rw [quoted, List.cons_append, delimited_cons_of_ne (by decide)]
  exact h

theorem quoted_of_double {cs taken rest : List Char}
    (h : delimited '"' '"' false cs = some (taken, rest)) : quoted cs = some (taken, rest) := by
  rw [quoted, h]
  rfl

theorem isToken_quoted : IsToken quoted where
  split h := (quoted_cases h).elim (isToken_delimited (by decide)).split
    (isToken_delimited (by decide)).split
  ne_nil h := (quoted_cases h).elim (isToken_delimited (by decide)).ne_nil
    (isToken_delimited (by decide)).ne_nil
  apart more hgap h := (quoted_cases h).elim
    (fun h => quoted_of_double ((isToken_delimited (by decide)).apart more hgap h))
    (fun h => quoted_of_single ((isToken_delimited (by decide)).apart more hgap h))

/-! ### Signs -/

theorem sign_eq_some {s : String} {cs taken rest : List Char} :
    sign s cs = some (taken, rest) ↔ taken = s.toList ∧ cs = taken ++ rest := by
  rw [sign]
  by_cases hs : s.toList.isPrefixOf cs = true
  · rw [if_pos hs]
    obtain ⟨more, rfl⟩ := List.isPrefixOf_iff_prefix.mp hs
    have hdrop : (s.toList ++ more).drop s.length = more := by
      rw [← String.length_toList, List.drop_left]
    rw [hdrop]
    constructor
    · rintro h
      cases h
      exact ⟨rfl, rfl⟩
    · rintro ⟨rfl, h⟩
      rw [List.append_cancel_left h]
  · rw [if_neg hs]
    constructor
    · rintro ⟨⟩
    · rintro ⟨rfl, rfl⟩
      exact absurd (List.isPrefixOf_iff_prefix.mpr ⟨rest, rfl⟩) hs

theorem sign_eq_none {s : String} {cs : List Char} :
    sign s cs = none ↔ ¬ s.toList <+: cs := by
  rw [sign, ← List.isPrefixOf_iff_prefix]
  split <;> simp_all

/-- The signs of the language: they are not empty and hold no white space. -/
def IsSign (s : String) : Prop := s.toList ≠ [] ∧ ∀ c ∈ s.toList, isLayoutChar c = false

instance (s : String) : Decidable (IsSign s) := inferInstanceAs (Decidable (_ ∧ _))

theorem stopsAtLayout_sign {s : String} (hs : IsSign s) : StopsAtLayout (sign s) := by
  intro gap hgap cs more
  cases h : sign s cs with
  | some p =>
    obtain ⟨taken, rest⟩ := p
    obtain ⟨rfl, rfl⟩ := sign_eq_some.mp h
    exact sign_eq_some.mpr ⟨rfl, List.append_assoc _ _ _⟩
  | none =>
    rw [sign_eq_none] at h
    refine sign_eq_none.mpr fun hprefix => h ?_
    -- the sign would have to reach behind the white space
    rcases List.prefix_or_prefix_of_prefix hprefix (List.prefix_append cs _) with hcs | ⟨t, ht⟩
    · exact hcs
    · rw [← ht, List.prefix_append_right_inj] at hprefix
      rcases t with _ | ⟨c, t⟩
      · simp [← ht]
      · obtain ⟨rfl, -⟩ := List.cons_prefix_cons.mp hprefix
        have hmem : c ∈ s.toList := ht ▸ by simp
        rw [hs.2 c hmem] at hgap
        cases hgap

theorem isToken_sign {s : String} (hs : IsSign s) : IsToken (sign s) where
  split h := (sign_eq_some.mp h).2.symm
  ne_nil h := (sign_eq_some.mp h).1 ▸ hs.1
  apart := (stopsAtLayout_sign hs).apart

theorem anySign_cons (s : String) (signs : List String) (cs : List Char) :
    anySign (s :: signs) cs = (sign s cs).orElse fun _ => anySign signs cs := rfl

theorem exists_sign_of_anySign {signs : List String} {cs taken rest : List Char}
    (h : anySign signs cs = some (taken, rest)) : ∃ s ∈ signs, sign s cs = some (taken, rest) := by
  induction signs with
  | nil => cases h
  | cons s signs ih =>
    rw [anySign_cons] at h
    cases hs : sign s cs with
    | some p =>
      rw [hs] at h
      exact ⟨s, List.mem_cons_self, hs.trans h⟩
    | none =>
      rw [hs] at h
      obtain ⟨s', hs', hsign⟩ := ih h
      exact ⟨s', List.mem_cons_of_mem _ hs', hsign⟩

theorem anySign_eq_none {signs : List String} {cs : List Char} :
    anySign signs cs = none ↔ ∀ s ∈ signs, ¬ s.toList <+: cs := by
  induction signs with
  | nil => simp [anySign]
  | cons s signs ih =>
    rw [anySign_cons, List.forall_mem_cons, ← ih, ← sign_eq_none]
    cases sign s cs <;> simp

theorem stopsAtLayout_anySign {signs : List String} (h : ∀ s ∈ signs, IsSign s) :
    StopsAtLayout (anySign signs) := by
  induction signs with
  | nil => exact fun _ _ _ _ => rfl
  | cons s signs ih =>
    obtain ⟨hs, hsigns⟩ := List.forall_mem_cons.mp h
    intro gap hgap cs more
    rw [anySign_cons, anySign_cons, stopsAtLayout_sign hs hgap, ih hsigns hgap]
    cases sign s cs <;> rfl

theorem isToken_anySign {signs : List String} (h : ∀ s ∈ signs, IsSign s) :
    IsToken (anySign signs) where
  split hscan := by
    obtain ⟨s, hs, hsign⟩ := exists_sign_of_anySign hscan
    exact (isToken_sign (h s hs)).split hsign
  ne_nil hscan := by
    obtain ⟨s, hs, hsign⟩ := exists_sign_of_anySign hscan
    exact (isToken_sign (h s hs)).ne_nil hsign
  apart := (stopsAtLayout_anySign h).apart

theorem assignSign_eq_some {cs taken rest : List Char} :
    assignSign cs = some (taken, rest) ↔
      taken = ['='] ∧ cs = '=' :: rest ∧ rest.head? ≠ some '=' := by
  rcases cs with _ | ⟨c, cs⟩
  · simp [assignSign]
  · by_cases hc : c = '='
    · subst hc
      rcases cs with _ | ⟨d, cs⟩
      · simp [assignSign]
        grind
      · by_cases hd : d = '='
        · subst hd
          simp [assignSign]
          grind
        · simp [assignSign, hd]
          grind
    · simp [assignSign, hc]

theorem isToken_assignSign : IsToken assignSign where
  split h := by
    obtain ⟨rfl, rfl, -⟩ := assignSign_eq_some.mp h
    rfl
  ne_nil h := by
    obtain ⟨rfl, -, -⟩ := assignSign_eq_some.mp h
    exact List.cons_ne_nil _ _
  apart {cs taken rest gap} more hgap h := by
    obtain ⟨rfl, rfl, hrest⟩ := assignSign_eq_some.mp h
    refine assignSign_eq_some.mpr ⟨rfl, rfl, ?_⟩
    cases rest with
    | nil => simpa using ne_of_isLayoutChar hgap rfl
    | cons c rest => exact hrest

end Token

end RecordScript
