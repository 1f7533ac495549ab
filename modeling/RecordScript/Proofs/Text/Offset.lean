import Mathlib.Data.List.Induction
import RecordScript.Grammar.Cursor

/-!
# Offsets of positions

A line and a column, both counted from one, are a place in a text: the place of a character that
belongs to no line end. A line ends at a line feed, or at a carriage return with a line feed behind
it; a carriage return alone is a character like any other. Conversely the text in front of a
character has lines and columns, and counting them is undone by looking the place up.
-/

namespace RecordScript

namespace Position

/-- The offset of the given line and column in a text. -/
def offsetAt? : Nat → Nat → List Char → Option Nat
  | _, _, [] => none
  | line, column, c :: cs =>
    if c = '\n' then
      if line = 1 then none else (offsetAt? (line - 1) column cs).map (· + 1)
    else if line = 1 then
      if c = '\r' ∧ cs.head? = some '\n' then none
      else if column = 1 then some 0
      else (offsetAt? 1 (column - 1) cs).map (· + 1)
    else (offsetAt? line column cs).map (· + 1)

/-- The offset of the position in a text. -/
def offset? (text : List Char) (p : Position) : Option Nat := offsetAt? p.line p.column text

/-- The first position stands before the second one. -/
def Precedes (text : List Char) (p q : Position) : Prop :=
  ∃ m n, p.offset? text = some m ∧ q.offset? text = some n ∧ m < n

/-- The first position does not stand behind the second one. -/
def NotBehind (text : List Char) (p q : Position) : Prop :=
  ∃ m n, p.offset? text = some m ∧ q.offset? text = some n ∧ m ≤ n

end Position

/-- The line and the column behind a text. -/
def lineColumn : List Char → Nat × Nat
  | [] => (1, 1)
  | c :: cs =>
    if c = '\n' then ((lineColumn cs).1 + 1, (lineColumn cs).2)
    else ((lineColumn cs).1,
      if (lineColumn cs).1 = 1 then (lineColumn cs).2 + 1 else (lineColumn cs).2)

theorem lineColumn_feed (cs : List Char) :
    lineColumn ('\n' :: cs) = ((lineColumn cs).1 + 1, (lineColumn cs).2) := by
  rw [lineColumn, if_pos rfl]

theorem lineColumn_cons {c : Char} (h : c ≠ '\n') (cs : List Char) :
    lineColumn (c :: cs) = ((lineColumn cs).1,
      if (lineColumn cs).1 = 1 then (lineColumn cs).2 + 1 else (lineColumn cs).2) := by
  rw [lineColumn, if_neg h]

theorem lineColumn_pos (cs : List Char) : 1 ≤ (lineColumn cs).1 ∧ 1 ≤ (lineColumn cs).2 := by
  induction cs with
  | nil => exact ⟨Nat.le_refl 1, Nat.le_refl 1⟩
  | cons c cs ih =>
    by_cases hc : c = '\n'
    · subst hc
      rw [lineColumn_feed]
      exact ⟨Nat.le_succ_of_le ih.1, ih.2⟩
    · rw [lineColumn_cons hc]
      refine ⟨ih.1, ?_⟩
      split
      · exact Nat.le_succ_of_le ih.2
      · exact ih.2

/-- Counting lines and columns on behind a first text. -/
theorem lineColumn_append_singleton (cs : List Char) (c : Char) :
    lineColumn (cs ++ [c]) =
      if c = '\n' then ((lineColumn cs).1 + 1, 1)
      else ((lineColumn cs).1, (lineColumn cs).2 + 1) := by
  induction cs with
  | nil =>
    by_cases hc : c = '\n'
    · rw [if_pos hc, hc]
      rfl
    · rw [if_neg hc, List.nil_append, lineColumn_cons hc]
      rfl
  | cons d cs ih =>
    have hpos := (lineColumn_pos cs).1
    rw [List.cons_append]
    by_cases hd : d = '\n'
    · subst hd
      rw [lineColumn_feed, lineColumn_feed, ih]
      split <;> rfl
    · rw [lineColumn_cons hd, lineColumn_cons hd, ih]
      by_cases hc : c = '\n'
      · simp only [if_pos hc]
        rw [if_neg (by omega)]
      · simp only [if_neg hc]
        split <;> rfl

/-- The character begins no line end. -/
def BeginsNoLineEnd (c : Char) : Prop := c ≠ '\n' ∧ c ≠ '\r'

namespace Position

theorem offsetAt?_feed (line column : Nat) (cs : List Char) :
    offsetAt? line column ('\n' :: cs) =
      if line = 1 then none else (offsetAt? (line - 1) column cs).map (· + 1) := by
  rw [offsetAt?, if_pos rfl]

theorem offsetAt?_of_line_ne {c : Char} (h : c ≠ '\n') {line : Nat} (hline : line ≠ 1)
    (column : Nat) (cs : List Char) :
    offsetAt? line column (c :: cs) = (offsetAt? line column cs).map (· + 1) := by
  rw [offsetAt?, if_neg h, if_neg hline]

theorem offsetAt?_first_line {c : Char} {cs : List Char} (h : c ≠ '\n')
    (hpair : ¬ (c = '\r' ∧ cs.head? = some '\n')) (column : Nat) :
    offsetAt? 1 column (c :: cs) =
      if column = 1 then some 0 else (offsetAt? 1 (column - 1) cs).map (· + 1) := by
  rw [offsetAt?, if_neg h, if_pos rfl, if_neg hpair]

/-- The line and the column behind a text lead back to the character that follows it. -/
theorem offsetAt?_lineColumn (before : List Char) {c : Char} (hc : BeginsNoLineEnd c)
    (rest : List Char) :
    offsetAt? (lineColumn before).1 (lineColumn before).2 (before ++ c :: rest) =
      some before.length := by
  induction before with
  | nil => exact (offsetAt?_first_line hc.1 (fun h => hc.2 h.1) 1).trans (if_pos rfl)
  | cons d before ih =>
    obtain ⟨hline, hcolumn⟩ := lineColumn_pos before
    rw [List.cons_append]
    by_cases hd : d = '\n'
    · subst hd
      rw [lineColumn_feed, offsetAt?_feed, if_neg (by omega), Nat.add_sub_cancel, ih]
      rfl
    · rw [lineColumn_cons hd]
      by_cases hone : (lineColumn before).1 = 1
      · -- What follows the carriage return is in the same line, so it is no line feed.
        have hpair : ¬ (d = '\r' ∧ (before ++ c :: rest).head? = some '\n') := by
          rintro ⟨-, hhead⟩
          cases before with
          | nil => exact hc.1 (by simpa using hhead)
          | cons e before =>
            obtain rfl : e = '\n' := by simpa using hhead
            rw [lineColumn_feed] at hone
            have := (lineColumn_pos before).1
            omega
        rw [hone] at ih
        simp only [hone, if_true]
        rw [offsetAt?_first_line hd hpair, if_neg (by omega), Nat.add_sub_cancel, ih]
        rfl
      · simp only [hone, if_false]
        rw [offsetAt?_of_line_ne hd hone, ih]
        rfl

end Position

namespace Cursor

/-! ### Going on in a text -/

/-- Going on over a part of the text leads from one cursor to the other. -/
def Passes (c : Cursor) (taken : List Char) (c' : Cursor) : Prop :=
  c.rest = taken ++ c'.rest ∧ c' = c.after taken c'.rest

theorem after_after (c : Cursor) (taken taken' rest rest' : List Char) :
    (c.after taken rest).after taken' rest' = c.after (taken ++ taken') rest' := by
  have hcount : ∀ (taken : List Char) (c : Cursor) (rest : List Char),
      { taken.foldl count { c with rest } with rest := rest' } =
        { taken.foldl count c with rest := rest' } := by
    intro taken
    induction taken with
    | nil => exact fun _ _ => rfl
    | cons d taken ih =>
      intro c rest
      rw [List.foldl_cons, List.foldl_cons, ← ih (c.count d) rest]
      rw [count, count]
      split <;> rfl
  rw [after, after, after, List.foldl_append]
  exact hcount taken' (taken.foldl count c) rest

theorem passes_nil (c : Cursor) : c.Passes [] c := ⟨rfl, rfl⟩

theorem passes_after {c : Cursor} {taken rest : List Char} (h : c.rest = taken ++ rest) :
    c.Passes taken (c.after taken rest) := ⟨h, rfl⟩

theorem Passes.append {c c' c'' : Cursor} {taken taken' : List Char} (h : c.Passes taken c')
    (h' : c'.Passes taken' c'') : c.Passes (taken ++ taken') c'' := by
  refine ⟨by rw [h.1, h'.1, List.append_assoc], ?_⟩
  calc c'' = c'.after taken' c''.rest := h'.2
    _ = (c.after taken c'.rest).after taken' c''.rest := congrArg (after · taken' c''.rest) h.2
    _ = c.after (taken ++ taken') c''.rest := after_after _ _ _ _ _

theorem Passes.offset_eq {c c' : Cursor} {taken : List Char} (h : c.Passes taken c') :
    c'.offset = c.offset + taken.length := by
  have hcount : ∀ (taken : List Char) (c : Cursor),
      (taken.foldl count c).offset = c.offset + taken.length := by
    intro taken
    induction taken with
    | nil => exact fun _ => rfl
    | cons d taken ih =>
      intro c
      have hstep : (c.count d).offset = c.offset + 1 := by
        rw [count]
        split <;> rfl
      rw [List.foldl_cons, ih, hstep, List.length_cons, Nat.add_assoc, Nat.add_comm 1]
  rw [h.2]
  exact hcount taken c

/-- A cursor that has come from the start of a text has counted its lines and columns. -/
theorem Passes.position_eq {source : String} {text taken : List Char} {c : Cursor}
    (h : (start source text).Passes taken c) :
    c.position = ⟨source, (lineColumn taken).1, (lineColumn taken).2⟩ := by
  have hcount : ∀ taken : List Char, (taken.foldl count (start source text)).position =
      ⟨source, (lineColumn taken).1, (lineColumn taken).2⟩ := by
    intro taken
    induction taken using List.reverseRecOn with
    | nil => rfl
    | append_singleton taken d ih =>
      simp only [position, Position.mk.injEq] at ih ⊢
      rw [List.foldl_append, List.foldl_cons, List.foldl_nil, lineColumn_append_singleton, count]
      split <;> simp [ih]
  rw [h.2]
  exact hcount taken

/-- The position of a cursor that has come from the start of a text is looked up at its offset. -/
theorem Passes.offset?_position {source : String} {text taken : List Char} {c : Cursor}
    (h : (start source text).Passes taken c) {d : Char} {cs : List Char} (hrest : c.rest = d :: cs)
    (hd : BeginsNoLineEnd d) : c.position.offset? text = some c.offset := by
  have htext : text = taken ++ d :: cs := hrest ▸ h.1
  rw [h.position_eq, h.offset_eq, Position.offset?, htext]
  exact (Position.offsetAt?_lineColumn taken hd cs).trans (congrArg some (Nat.zero_add _).symm)

-- A carriage return ends a line only together with the line feed behind it.
example : (⟨"m", 2, 3⟩ : Position).offset? ['a', '\r', '\n', 'b', '\r', 'c'] = some 5 := by decide

/-- Passing over white space and comments goes on in the text. -/
theorem exists_passes_skipLayout (c : Cursor) : ∃ layout, c.Passes layout c.skipLayout := by
  have hsplit : ∀ (comment : Bool) (cs : List Char),
      (splitLayout comment cs).1 ++ (splitLayout comment cs).2 = cs := by
    intro comment cs
    fun_induction splitLayout comment cs with
    | case1 => rfl
    | case2 c cs layout rest heq ih
    | case3 c cs _ layout rest heq ih =>
      rw [heq] at ih
      exact congrArg (c :: ·) ih
    | case4 => rfl
  exact ⟨(splitLayout false c.rest).1, passes_after (hsplit false c.rest).symm⟩

theorem Passes.drop_offset {source : String} {text taken : List Char} {c : Cursor}
    (h : (start source text).Passes taken c) : text.drop c.offset = c.rest := by
  have htext : text = taken ++ c.rest := h.1
  have hoffset : c.offset = taken.length := h.offset_eq.trans (Nat.zero_add _)
  rw [hoffset, htext, List.drop_left]

end Cursor

end RecordScript
