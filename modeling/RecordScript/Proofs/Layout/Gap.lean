import RecordScript.Proofs.Grammar.Reading

/-!
# Gaps between tokens

Between two tokens stand white space and comments. A comment runs to the end of its line, so what
follows a gap depends on whether the gap leaves a comment open. White space and whole comments can
be put into a gap at every place that is not inside a comment, and leave a gap.
-/

namespace RecordScript

/-- Whether a comment is open behind a character of a gap. -/
def opensComment (comment : Bool) (c : Char) : Bool :=
  if comment then c ≠ '\n' && c ≠ '\r' else c = '#'

/-- Whether a comment is open behind white space and comments. -/
def endsInComment (gap : List Char) : Bool := gap.foldl opensComment false

theorem skipFrom_true_cons (c : Char) (cs : List Char) :
    skipFrom true (c :: cs) = skipFrom (opensComment true c) cs := rfl

theorem skipFrom_false_cons {c : Char} (h : endsLayout c = false) (cs : List Char) :
    skipFrom false (c :: cs) = skipFrom (opensComment false c) cs := by
  change skip (c :: cs) = _
  rw [skip_cons, h]
  rfl

theorem skipFrom_cons_eq_nil {comment : Bool} {c : Char} {cs : List Char} :
    skipFrom comment (c :: cs) = [] ↔
      (comment = true ∨ endsLayout c = false) ∧ skipFrom (opensComment comment c) cs = [] := by
  cases comment with
  | true => simp [skipFrom_true_cons]
  | false =>
    cases hc : endsLayout c with
    | true =>
      change skip (c :: cs) = [] ↔ _
      simp [skip_of_endsLayout hc]
    | false => simp [skipFrom_false_cons hc]

/-- Passing over a text goes on behind a gap at its front. -/
theorem skipFrom_append {comment : Bool} {gap : List Char} (h : skipFrom comment gap = [])
    (rest : List Char) :
    skipFrom comment (gap ++ rest) = skipFrom (gap.foldl opensComment comment) rest := by
  induction gap generalizing comment with
  | nil => rfl
  | cons c gap ih =>
    obtain ⟨hc, hgap⟩ := skipFrom_cons_eq_nil.mp h
    rw [List.cons_append, List.foldl_cons, ← ih hgap]
    cases comment with
    | true => rfl
    | false => exact skipFrom_false_cons (by simpa using hc) _

theorem skipFrom_append_eq_nil {comment : Bool} {gap gap' : List Char} :
    skipFrom comment (gap ++ gap') = [] ↔
      skipFrom comment gap = [] ∧ skipFrom (gap.foldl opensComment comment) gap' = [] := by
  induction gap generalizing comment with
  | nil => simp [skipFrom, splitLayout]
  | cons c gap ih => rw [List.cons_append, skipFrom_cons_eq_nil, ih, skipFrom_cons_eq_nil,
      and_assoc, List.foldl_cons]

/-- Only white space and comments; the last comment may be open. -/
def IsLayout (gap : List Char) : Prop := skip gap = []

/-- Only white space and comments with the ends of their lines. -/
def IsGap (gap : List Char) : Prop := IsLayout gap ∧ endsInComment gap = false

theorem isGap_nil : IsGap [] := ⟨rfl, rfl⟩

theorem IsGap.skip_append {gap : List Char} (h : IsGap gap) (rest : List Char) :
    skip (gap ++ rest) = skip rest := by
  rw [skip, skipFrom_append h.1]
  exact congrArg (skipFrom · rest) h.2

theorem endsLayout_eq_false_of_isLayout {c : Char} {gap : List Char} (h : IsLayout (c :: gap)) :
    endsLayout c = false := by
  simpa using (skipFrom_cons_eq_nil.mp h).1

/-- The gap in front of a text is what passing over white space takes off it. -/
theorem exists_skipFrom (comment : Bool) (cs : List Char) :
    ∃ gap, cs = gap ++ skipFrom comment cs ∧ skipFrom comment gap = [] ∧
      (skipFrom comment cs ≠ [] → gap.foldl opensComment comment = false) := by
  -- Behind a hash the induction goes on inside a comment, so the state is not fixed.
  induction cs generalizing comment with
  | nil => exact ⟨[], rfl, rfl, fun h => absurd rfl h⟩
  | cons c cs ih =>
    by_cases hc : comment = true ∨ endsLayout c = false
    · obtain ⟨gap, hcs, hgap, hclosed⟩ := ih (opensComment comment c)
      have hskip : skipFrom comment (c :: cs) = skipFrom (opensComment comment c) cs := by
        cases comment with
        | true => rfl
        | false => exact skipFrom_false_cons (by simpa using hc) cs
      rw [hskip]
      exact ⟨c :: gap, by rw [List.cons_append, ← hcs], skipFrom_cons_eq_nil.mpr ⟨hc, hgap⟩,
        hclosed⟩
    · obtain ⟨rfl, hends⟩ : comment = false ∧ endsLayout c = true := by simpa using hc
      exact ⟨[], (skip_of_endsLayout hends cs).symm, rfl, fun _ => rfl⟩

theorem exists_isGap {cs : List Char} (h : skip cs ≠ []) :
    ∃ gap, IsGap gap ∧ cs = gap ++ skip cs := by
  obtain ⟨gap, hcs, hgap, hclosed⟩ := exists_skipFrom false cs
  exact ⟨gap, ⟨hgap, hclosed h⟩, hcs⟩

/-! ### What can be put into a gap -/

/-- White space, or a comment with a line feed behind it. -/
inductive IsSpacing : List Char → Prop
  | blanks {cs : List Char} (h : ∀ c ∈ cs, isLayoutChar c = true) : IsSpacing cs
  | comment {body : List Char} (h : ∀ c ∈ body, c ≠ '\n' ∧ c ≠ '\r') :
      IsSpacing ('#' :: (body ++ ['\n']))

/-- The place between two parts of a gap is not inside a comment: none is open there, or it ends
there. -/
def OutsideComment (before after : List Char) : Prop :=
  endsInComment before = true → ∀ c ∈ after.head?, c = '\n' ∨ c = '\r'

/-- The second gap is the first one with white space and comments put in outside of its
comments. -/
inductive Widens (gap : List Char) : List Char → Prop
  | same : Widens gap gap
  | insert {before after spacing : List Char} (others : Widens gap (before ++ after))
      (place : OutsideComment before after) (isSpacing : IsSpacing spacing) :
      Widens gap (before ++ spacing ++ after)

theorem endsLayout_of_isLayoutChar {c : Char} (h : isLayoutChar c = true) :
    endsLayout c = false := by
  simp [endsLayout, h]

theorem isGap_blanks {cs : List Char} (h : ∀ c ∈ cs, isLayoutChar c = true) : IsGap cs := by
  induction cs with
  | nil => exact isGap_nil
  | cons c cs ih =>
    obtain ⟨hc, hcs⟩ := List.forall_mem_cons.mp h
    have hclosed : opensComment false c = false := by
      simpa [opensComment] using Token.ne_of_isLayoutChar hc rfl
    obtain ⟨hlayout, hends⟩ := ih hcs
    refine ⟨skipFrom_cons_eq_nil.mpr ⟨.inr (endsLayout_of_isLayoutChar hc), ?_⟩, ?_⟩
    · rw [hclosed]
      exact hlayout
    · rw [endsInComment, List.foldl_cons, hclosed]
      exact hends

theorem isGap_comment {body : List Char} (h : ∀ c ∈ body, c ≠ '\n' ∧ c ≠ '\r') :
    IsGap ('#' :: (body ++ ['\n'])) := by
  have hbody : skipFrom true (body ++ ['\n']) = [] ∧
      (body ++ ['\n']).foldl opensComment true = false := by
    induction body with
    | nil => exact ⟨rfl, rfl⟩
    | cons c body ih =>
      obtain ⟨hc, hbody⟩ := List.forall_mem_cons.mp h
      have hopen : opensComment true c = true := by simp [opensComment, hc]
      rw [List.cons_append, skipFrom_true_cons, List.foldl_cons, hopen]
      exact ih hbody
  exact ⟨skipFrom_cons_eq_nil.mpr ⟨.inr rfl, hbody.1⟩, hbody.2⟩

theorem IsSpacing.isGap {spacing : List Char} (h : IsSpacing spacing) : IsGap spacing := by
  cases h with
  | blanks h => exact isGap_blanks h
  | comment h => exact isGap_comment h

theorem opensComment_of_isLineEnd {c : Char} (hc : c = '\n' ∨ c = '\r') (comment : Bool) :
    opensComment comment c = false := by
  rcases hc with rfl | rfl <;> cases comment <;> rfl

/-- An open comment takes everything up to the end of its line, so white space and comments are
passed over inside it as well. -/
theorem skipFrom_true_of_eq_nil {comment : Bool} {gap : List Char} (h : skipFrom comment gap = []) :
    skipFrom true gap = [] := by
  induction gap generalizing comment with
  | nil => rfl
  | cons c gap ih =>
    obtain ⟨-, hgap⟩ := skipFrom_cons_eq_nil.mp h
    rw [skipFrom_true_cons]
    by_cases hc : c = '\n' ∨ c = '\r'
    · rwa [opensComment_of_isLineEnd hc] at hgap ⊢
    · have hopen : opensComment true c = true := by simpa [opensComment] using not_or.mp hc
      rw [hopen]
      exact ih hgap

/-- A line end is passed over whether or not a comment ends there. -/
theorem skipFrom_of_lineEnd {comment : Bool} {gap : List Char}
    (h : skipFrom true gap = []) (hend : ∀ c ∈ gap.head?, c = '\n' ∨ c = '\r') :
    skipFrom comment gap = [] := by
  cases gap with
  | nil => rfl
  | cons c gap =>
    have hc := hend c rfl
    have hgap := (skipFrom_cons_eq_nil.mp h).2
    refine skipFrom_cons_eq_nil.mpr ⟨.inr ?_, ?_⟩
    · rcases hc with rfl | rfl <;> rfl
    · rwa [opensComment_of_isLineEnd hc] at hgap ⊢

theorem isLayout_insert {before after spacing : List Char} (h : IsLayout (before ++ after))
    (place : OutsideComment before after) (isSpacing : IsSpacing spacing) :
    IsLayout (before ++ spacing ++ after) := by
  obtain ⟨hspacing, hclosed⟩ := isSpacing.isGap
  obtain ⟨hbefore, hafter⟩ := skipFrom_append_eq_nil.mp h
  rw [List.append_assoc]
  refine skipFrom_append_eq_nil.mpr ⟨hbefore, skipFrom_append_eq_nil.mpr ?_⟩
  cases hstate : before.foldl opensComment false with
  | false =>
    rw [hstate] at hafter
    exact ⟨hspacing, (congrArg (skipFrom · after) hclosed).trans hafter⟩
  | true =>
    -- The open comment takes the spacing in. If a line end in it closes the comment, the next line
    -- end, in front of `after`, is white space.
    rw [hstate] at hafter
    exact ⟨skipFrom_true_of_eq_nil hspacing, skipFrom_of_lineEnd hafter (place hstate)⟩

theorem endsInComment_insert {before after spacing : List Char}
    (h : endsInComment (before ++ after) = false) (place : OutsideComment before after)
    (isSpacing : IsSpacing spacing) : endsInComment (before ++ spacing ++ after) = false := by
  have hclosed : spacing.foldl opensComment false = false := isSpacing.isGap.2
  rw [endsInComment, List.foldl_append] at h
  rw [endsInComment, List.foldl_append, List.foldl_append]
  cases hstate : before.foldl opensComment false with
  | false =>
    rw [hstate] at h
    rwa [hclosed]
  | true =>
    rw [hstate] at h
    cases after with
    | nil => cases h
    | cons c after =>
      have hc := place hstate c rfl
      rw [List.foldl_cons, opensComment_of_isLineEnd hc] at h ⊢
      exact h

theorem Widens.isLayout {gap gap' : List Char} (h : Widens gap gap') (hgap : IsLayout gap) :
    IsLayout gap' := by
  induction h with
  | same => exact hgap
  | insert _ place isSpacing ih => exact isLayout_insert ih place isSpacing

theorem Widens.isGap {gap gap' : List Char} (h : Widens gap gap') (hgap : IsGap gap) :
    IsGap gap' := by
  induction h with
  | same => exact hgap
  | insert _ place isSpacing ih =>
    exact ⟨isLayout_insert ih.1 place isSpacing, endsInComment_insert ih.2 place isSpacing⟩

/-- Nothing is taken from a gap. -/
theorem Widens.eq_nil {gap gap' : List Char} (h : Widens gap gap') (hnil : gap' = []) :
    gap = [] := by
  induction h with
  | same => exact hnil
  | insert _ _ _ ih =>
    simp only [List.append_eq_nil_iff] at hnil
    exact ih (by rw [hnil.1.1, hnil.2]; rfl)

end RecordScript
