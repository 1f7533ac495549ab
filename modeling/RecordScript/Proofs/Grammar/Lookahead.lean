import Mathlib.Data.List.TakeWhile
import RecordScript.Proofs.Grammar.Start

/-!
# Tokens and what follows them

Where a token ends depends on the characters behind it. A token stays the same token if the text
behind it goes on as before up to a place where white space, a comment or one of the signs `(`, `)`,
`;` and `|` comes, because no longer token holds one of these there.
-/

namespace RecordScript

/-- Whether no token that stands in front of the character goes on with it. -/
def isSeparator (c : Char) : Bool := isLayoutChar c || ['#', '(', ')', ';', '|'].contains c

/-- The second text goes on like the first one, up to its end or to a separator. -/
inductive Continues : List Char → List Char → Prop
  | apart {cs cs' : List Char} (h : ∀ c ∈ cs'.head?, isSeparator c = true) : Continues cs cs'
  | step (c : Char) {cs cs' : List Char} (h : Continues cs cs') : Continues (c :: cs) (c :: cs')

namespace Continues

variable {cs cs' : List Char}

theorem append (h : Continues cs cs') (before : List Char) :
    Continues (before ++ cs) (before ++ cs') := by
  induction before with
  | nil => exact h
  | cons c before ih => exact .step c ih

theorem of_cons {c : Char} (h : Continues cs (c :: cs')) (hc : isSeparator c = false) :
    ∃ tail, cs = c :: tail ∧ Continues tail cs' := by
  cases h with
  | apart h => exact absurd (h c rfl) (by simp [hc])
  | step c h => exact ⟨_, rfl, h⟩

/-- A sign without separators stands in front of the first text if it does in front of the
second. -/
theorem startsWith (h : Continues cs cs') {s : List Char} (hs : ∀ c ∈ s, isSeparator c = false)
    (hstart : s <+: cs') : s <+: cs := by
  induction s generalizing cs cs' with
  | nil => exact List.nil_prefix
  | cons c s ih =>
    obtain ⟨hc, hs⟩ := List.forall_mem_cons.mp hs
    obtain ⟨more, rfl⟩ := hstart
    obtain ⟨tail, rfl, htail⟩ := of_cons h hc
    exact List.cons_prefix_cons.mpr ⟨rfl, ih htail hs (List.prefix_append s more)⟩

/-- What does not hold of separators and of the character that follows first does not hold of the
character that follows then. -/
theorem head (h : Continues cs cs') {p : Char → Bool}
    (hp : ∀ c, isSeparator c = true → p c = false) (hhead : ∀ c ∈ cs.head?, p c = false) :
    ∀ c ∈ cs'.head?, p c = false := by
  cases h with
  | apart h => exact fun c hc => hp c (h c hc)
  | step c h => exact hhead

end Continues

/-- The scanner of a token that depends on what follows only up to the next separator. -/
structure Parser.Scanner.IsRobust (scan : Parser.Scanner) : Prop extends scan.IsToken where
  start : ∀ {cs taken rest}, scan cs = some (taken, rest) → ∃ c ∈ taken.head?, endsLayout c = true
  stable : ∀ {taken rest rest'}, scan (taken ++ rest) = some (taken, rest) → Continues rest rest' →
    scan (taken ++ rest') = some (taken, rest')

namespace Token

open Parser.Scanner (IsRobust)

theorem mem_of_isSeparator {c : Char} (h : isSeparator c = true) :
    c ∈ [' ', '\t', '\r', '\n', '#', '(', ')', ';', '|'] := by
  rcases Bool.or_eq_true_iff.mp h with h | h
  · exact List.mem_append_left _ (mem_of_isLayoutChar h)
  · exact List.mem_append_right [' ', '\t', '\r', '\n'] (List.contains_iff_mem.mp h)

theorem isWordChar_of_isSeparator (c : Char) (h : isSeparator c = true) : isWordChar c = false :=
  (by decide : ∀ c ∈ [' ', '\t', '\r', '\n', '#', '(', ')', ';', '|'], isWordChar c = false) c
    (mem_of_isSeparator h)

theorem isDigit_of_isSeparator (c : Char) (h : isSeparator c = true) : c.isDigit = false :=
  (by decide : ∀ c ∈ [' ', '\t', '\r', '\n', '#', '(', ')', ';', '|'], c.isDigit = false) c
    (mem_of_isSeparator h)

section Spans

variable {p : Char → Bool} {taken rest : List Char}

theorem takeWhile_append_eq (htaken : ∀ c ∈ taken, p c = true)
    (hrest : ∀ c ∈ rest.head?, p c = false) : (taken ++ rest).takeWhile p = taken := by
  rw [List.takeWhile_append_of_pos htaken]
  cases rest with
  | nil => simp
  | cons c rest => simp [hrest c rfl]

theorem dropWhile_append_eq (htaken : ∀ c ∈ taken, p c = true)
    (hrest : ∀ c ∈ rest.head?, p c = false) : (taken ++ rest).dropWhile p = rest := by
  rw [List.dropWhile_append_of_pos htaken]
  cases rest with
  | nil => simp
  | cons c rest => simp [hrest c rfl]

theorem head?_dropWhile_eq_false (cs : List Char) : ∀ c ∈ (cs.dropWhile p).head?, p c = false := by
  intro c hc
  have h := List.head?_dropWhile_not p cs
  rw [hc] at h
  exact h

end Spans

/-! ### Words -/

theorem isRobust_word : IsRobust word where
  toIsToken := isToken_word
  start h := by
    obtain ⟨c, cs, rfl, hc, rfl, -⟩ := word_eq_some.mp h
    exact ⟨c, rfl, endsLayout_of_isWordStart hc⟩
  stable {taken rest rest'} h hrest := by
    obtain ⟨c, cs, htext, hc, rfl, rfl⟩ := word_eq_some.mp h
    have hword : ∀ c ∈ cs.takeWhile isWordChar, isWordChar c = true :=
      fun c hc => List.mem_takeWhile_imp hc
    have hhead := hrest.head isWordChar_of_isSeparator (head?_dropWhile_eq_false cs)
    exact word_eq_some.mpr ⟨c, cs.takeWhile isWordChar ++ rest', rfl, hc,
      by rw [takeWhile_append_eq hword hhead], (dropWhile_append_eq hword hhead).symm⟩

theorem isRobust_wordWith (p : List Char → Bool) : IsRobust (wordWith p) where
  toIsToken := isToken_wordWith p
  start h := isRobust_word.start (wordWith_eq_some.mp h).1
  stable h hrest := by
    obtain ⟨hword, hp⟩ := wordWith_eq_some.mp h
    exact wordWith_eq_some.mpr ⟨isRobust_word.stable hword hrest, hp⟩

theorem isRobust_keyword (n : String) : IsRobust (keyword n) := keyword_eq n ▸ isRobust_wordWith _

theorem isRobust_name : IsRobust name := name_eq ▸ isRobust_wordWith _

theorem isRobust_boolean : IsRobust boolean := boolean_eq ▸ isRobust_wordWith _

/-! ### Numbers -/

/-- Whether a text starts with a point and a digit. -/
def startsFraction : List Char → Bool
  | '.' :: d :: _ => d.isDigit
  | _ => false

theorem startsFraction_of_continues {cs cs' : List Char} (h : Continues cs cs')
    (hcs : startsFraction cs = false) : startsFraction cs' = false := by
  match cs' with
  | [] | [_] => simp [startsFraction]
  | c :: d :: more =>
    by_cases hc : c = '.'
    · subst hc
      obtain ⟨tail, rfl, htail⟩ := h.of_cons (by decide)
      -- The digit behind the point is no separator, so it has stood in the first text as well.
      by_contra hfraction
      have hd : d.isDigit = true := by simpa [startsFraction] using hfraction
      have hseparator : isSeparator d = false := by
        by_contra h
        rw [isDigit_of_isSeparator d (by simpa using h)] at hd
        cases hd
      obtain ⟨tail, rfl, -⟩ := htail.of_cons hseparator
      exact hfraction hcs
    · simp [startsFraction, hc]

section Number

variable {whole fraction rest : List Char} {d : Char}

theorem number_whole (hne : whole ≠ []) (hwhole : ∀ c ∈ whole, c.isDigit = true)
    (hrest : ∀ c ∈ rest.head?, c.isDigit = false) (hpoint : startsFraction rest = false) :
    number (whole ++ rest) = some (whole, rest) := by
  unfold number
  rw [takeWhile_append_eq hwhole hrest, dropWhile_append_eq hwhole hrest]
  simp only [hne, if_false]
  split
  · next d rest =>
    have hd : d.isDigit = false := hpoint
    simp [hd]
  · rfl

theorem number_fraction (hne : whole ≠ []) (hwhole : ∀ c ∈ whole, c.isDigit = true)
    (hd : d.isDigit = true) (hfraction : ∀ c ∈ fraction, c.isDigit = true)
    (hrest : ∀ c ∈ rest.head?, c.isDigit = false) :
    number (whole ++ '.' :: d :: (fraction ++ rest)) =
      some (whole ++ '.' :: d :: fraction, rest) := by
  have hpoint : ∀ c ∈ ('.' :: d :: (fraction ++ rest)).head?, c.isDigit = false := by
    intro c hc
    obtain rfl : '.' = c := by simpa using hc
    decide
  unfold number
  rw [takeWhile_append_eq hwhole hpoint, dropWhile_append_eq hwhole hpoint]
  simp only [hne, if_false, hd, if_true]
  rw [takeWhile_append_eq hfraction hrest, dropWhile_append_eq hfraction hrest]

end Number

theorem number_eq_some {cs taken rest : List Char} (h : number cs = some (taken, rest)) :
    cs = taken ++ rest ∧ (∀ c ∈ rest.head?, c.isDigit = false) ∧
      ∃ whole, whole ≠ [] ∧ (∀ c ∈ whole, c.isDigit = true) ∧
        (taken = whole ∧ startsFraction rest = false ∨
          ∃ d fraction, d.isDigit = true ∧ (∀ c ∈ fraction, c.isDigit = true) ∧
            taken = whole ++ '.' :: d :: fraction) := by
  refine ⟨(isToken_number.split h).symm, ?_⟩
  have hdigits : ∀ cs : List Char, ∀ c ∈ cs.takeWhile Char.isDigit, c.isDigit = true :=
    fun _ _ hc => List.mem_takeWhile_imp hc
  unfold number at h
  by_cases hwhole : cs.takeWhile Char.isDigit = []
  · simp [hwhole] at h
  · simp only [hwhole, if_false] at h
    have hbehind := head?_dropWhile_eq_false (p := Char.isDigit) cs
    split at h
    · next d more hdrop =>
      split at h
      · next hd =>
        cases h
        exact ⟨head?_dropWhile_eq_false more, _, hwhole, hdigits cs,
          .inr ⟨d, _, hd, hdigits more, rfl⟩⟩
      · next hd =>
        cases h
        rw [hdrop] at hbehind
        exact ⟨hbehind, _, hwhole, hdigits cs, .inl ⟨rfl, by simpa [startsFraction] using hd⟩⟩
    · next hpoint =>
      cases h
      refine ⟨hbehind, _, hwhole, hdigits cs, .inl ⟨rfl, ?_⟩⟩
      unfold startsFraction
      split
      · next d more hdrop => exact absurd hdrop (hpoint d more)
      · rfl

theorem isRobust_number : IsRobust number where
  toIsToken := isToken_number
  start h := by
    obtain ⟨-, -, whole, hne, hwhole, htaken⟩ := number_eq_some h
    obtain ⟨c, whole, rfl⟩ := List.exists_cons_of_ne_nil hne
    refine ⟨c, ?_, endsLayout_of_isDigit (hwhole c List.mem_cons_self)⟩
    rcases htaken with ⟨rfl, -⟩ | ⟨d, fraction, -, -, rfl⟩ <;> rfl
  stable {taken rest rest'} h hrest := by
    obtain ⟨-, hhead, whole, hne, hwhole, ⟨rfl, hpoint⟩ | ⟨d, fraction, hd, hfraction, rfl⟩⟩ :=
      number_eq_some h
    · exact number_whole hne hwhole (hrest.head isDigit_of_isSeparator hhead)
        (startsFraction_of_continues hrest hpoint)
    · rw [List.append_assoc]
      exact number_fraction hne hwhole hd hfraction (hrest.head isDigit_of_isSeparator hhead)

/-! ### Literals between delimiters -/

theorem isRobust_delimited {opening close : Char} {oneLine : Bool} (hclose : close ≠ '\\')
    (hopening : endsLayout opening = true) : IsRobust (delimited opening close oneLine) where
  toIsToken := isToken_delimited hclose
  start h := by
    obtain ⟨inner, -, rfl, -⟩ := (delimited_eq_some hclose).mp h
    exact ⟨opening, rfl, hopening⟩
  stable h _ := by
    obtain ⟨inner, hinner, rfl, -⟩ := (delimited_eq_some hclose).mp h
    exact (delimited_eq_some hclose).mpr ⟨inner, hinner, rfl, rfl⟩

theorem isRobust_regex : IsRobust regex := isRobust_delimited (by decide) rfl

theorem isRobust_bracedName : IsRobust bracedName := isRobust_delimited (by decide) rfl

theorem isRobust_quoted : IsRobust quoted where
  toIsToken := isToken_quoted
  start h := (quoted_cases h).elim (isRobust_delimited (by decide) rfl).start
    (isRobust_delimited (by decide) rfl).start
  stable h hrest := (quoted_cases h).elim
    (fun h => quoted_of_double ((isRobust_delimited (by decide) rfl).stable h hrest))
    (fun h => quoted_of_single ((isRobust_delimited (by decide) rfl).stable h hrest))

/-! ### Signs -/

/-- The sign starts with a character that is no white space. -/
def StartsVisibly (s : String) : Prop := ∃ c ∈ s.toList.head?, endsLayout c = true

instance (s : String) : Decidable (StartsVisibly s) :=
  inferInstanceAs (Decidable (∃ c ∈ s.toList.head?, endsLayout c = true))

theorem isRobust_sign {s : String} (hs : IsSign s) (hstart : StartsVisibly s) :
    IsRobust (sign s) where
  toIsToken := isToken_sign hs
  start h := (sign_eq_some.mp h).1 ▸ hstart
  stable h _ := sign_eq_some.mpr ⟨(sign_eq_some.mp h).1, rfl⟩

/-- Signs that can be told from each other without regard to separators. -/
def IsOperatorSign (s : String) : Prop :=
  IsSign s ∧ StartsVisibly s ∧ ∀ c ∈ s.toList, isSeparator c = false

instance (s : String) : Decidable (IsOperatorSign s) := inferInstanceAs (Decidable (_ ∧ _ ∧ _))

theorem stable_anySign {signs : List String} (h : ∀ s ∈ signs, IsOperatorSign s)
    {taken rest rest' : List Char} (hscan : anySign signs (taken ++ rest) = some (taken, rest))
    (hrest : Continues rest rest') : anySign signs (taken ++ rest') = some (taken, rest') := by
  induction signs with
  | nil => cases hscan
  | cons s signs ih =>
    obtain ⟨⟨hs, hstart, hseparator⟩, hsigns⟩ := List.forall_mem_cons.mp h
    rw [anySign_cons] at hscan ⊢
    cases hsign : sign s (taken ++ rest) with
    | some found =>
      rw [hsign] at hscan
      obtain rfl : found = (taken, rest) := by simpa using hscan
      rw [(isRobust_sign hs hstart).stable hsign hrest]
      rfl
    | none =>
      -- A sign that did not stand there must not arise where the rest goes on otherwise. It could
      -- only reach past a separator, and no operator contains one.
      have hnone : sign s (taken ++ rest') = none :=
        sign_eq_none.mpr fun hfound =>
          sign_eq_none.mp hsign ((hrest.append taken).startsWith hseparator hfound)
      rw [hsign] at hscan
      rw [hnone]
      exact ih hsigns hscan

theorem isRobust_anySign {signs : List String} (h : ∀ s ∈ signs, IsOperatorSign s) :
    IsRobust (anySign signs) where
  toIsToken := isToken_anySign fun s hs => (h s hs).1
  start hscan := by
    obtain ⟨s, hs, hsign⟩ := exists_sign_of_anySign hscan
    exact (sign_eq_some.mp hsign).1 ▸ (h s hs).2.1
  stable := stable_anySign h

theorem isRobust_assignSign : IsRobust assignSign where
  toIsToken := isToken_assignSign
  start h := by
    obtain ⟨rfl, -, -⟩ := assignSign_eq_some.mp h
    exact ⟨'=', rfl, rfl⟩
  stable {taken rest rest'} h hrest := by
    obtain ⟨rfl, -, hhead⟩ := assignSign_eq_some.mp h
    refine assignSign_eq_some.mpr ⟨rfl, rfl, fun hhead' => ?_⟩
    have hnot := hrest.head (p := (· = '=')) (fun c hc => ?_) (fun c hc => ?_) '=' hhead'
    · simp at hnot
    · have := (by decide : ∀ c ∈ [' ', '\t', '\r', '\n', '#', '(', ')', ';', '|'], c ≠ '=') c
        (mem_of_isSeparator hc)
      simpa using this
    · refine decide_eq_false ?_
      rintro rfl
      exact hhead hc

end Token

end RecordScript
