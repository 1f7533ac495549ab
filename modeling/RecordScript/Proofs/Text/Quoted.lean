import Mathlib.Data.Nat.Digits.Defs
import RecordScript.Text.Quoted

/-!
# Quoted texts are read from the front

Where a quoted text ends can be seen without what stands behind it, and so can where each of its
characters ends. Hence nothing inside the quotes can pass for their end, and different texts have
different quoted forms.
-/

namespace RecordScript.Text

/-! ### Hexadecimal numerals -/

theorem digitChar_inj {m n : Nat} (hm : m < 16) (hn : n < 16)
    (h : Nat.digitChar m = Nat.digitChar n) : m = n :=
  (by decide : ∀ m < 16, ∀ n < 16, Nat.digitChar m = Nat.digitChar n → m = n) m hm n hn h

/-- Different numbers have different hexadecimal numerals. -/
theorem toDigits_inj {m n : Nat} (h : Nat.toDigits 16 m = Nat.toDigits 16 n) : m = n := by
  induction m using Nat.strongRecOn generalizing n with
  | ind m ih =>
    have hlength := congrArg List.length h
    rcases Nat.lt_or_ge m 16 with hm | hm <;> rcases Nat.lt_or_ge n 16 with hn | hn
    · rw [Nat.toDigits_of_lt_base hm, Nat.toDigits_of_lt_base hn, List.singleton_inj] at h
      exact digitChar_inj hm hn h
    · rw [Nat.toDigits_of_lt_base hm, Nat.toDigits_of_base_le (by decide) hn] at hlength
      simp at hlength
    · rw [Nat.toDigits_of_lt_base hn, Nat.toDigits_of_base_le (by decide) hm] at hlength
      simp at hlength
    · rw [Nat.toDigits_of_base_le (by decide) hm, Nat.toDigits_of_base_le (by decide) hn] at h
      obtain ⟨hfront, hlast⟩ := List.append_inj' h rfl
      have hquotient := ih (m / 16) (by omega) hfront
      have hremainder := digitChar_inj (Nat.mod_lt m (by decide)) (Nat.mod_lt n (by decide))
        (List.singleton_inj.mp hlast)
      omega

/-- The digits of a hexadecimal numeral are no braces. -/
theorem brace_notMem_toDigits (n : Nat) : '\x7d' ∉ Nat.toDigits 16 n := by
  have hdigit : ∀ d < 16, Nat.digitChar d ≠ '\x7d' := by decide
  induction n using Nat.strongRecOn with
  | ind n ih =>
    rcases Nat.lt_or_ge n 16 with hn | hn
    · rw [Nat.toDigits_of_lt_base hn, List.mem_singleton]
      exact (hdigit n hn).symm
    · rw [Nat.toDigits_of_base_le (by decide) hn, List.mem_append, List.mem_singleton]
      rintro (hfront | hlast)
      · exact ih (n / 16) (by omega) hfront
      · exact hdigit (n % 16) (Nat.mod_lt n (by decide)) hlast.symm

/-- What stands in front of the first mark, and what stands behind it. -/
theorem append_mark_inj {mark : Char} {xs ys s t : List Char} (hx : mark ∉ xs) (hy : mark ∉ ys)
    (h : xs ++ mark :: s = ys ++ mark :: t) : xs = ys ∧ s = t := by
  induction xs generalizing ys with
  | nil =>
    cases ys with
    | nil => exact ⟨rfl, (List.cons.inj h).2⟩
    | cons y ys => exact absurd (List.cons.inj h).1 (List.ne_of_not_mem_cons hy)
  | cons x xs ih =>
    cases ys with
    | nil => exact absurd (List.cons.inj h).1.symm (List.ne_of_not_mem_cons hx)
    | cons y ys =>
      obtain ⟨rfl, hrest⟩ := List.cons.inj h
      obtain ⟨rfl, rfl⟩ := ih (List.not_mem_of_not_mem_cons hx) (List.not_mem_of_not_mem_cons hy)
        hrest
      exact ⟨rfl, rfl⟩

/-! ### Characters inside quotes -/

/-- The letter behind the backslash, for a character with an escape of its own. -/
def escapeLetter? : Char → Option Char
  | '"' => some '"'
  | '\\' => some '\\'
  | '\n' => some 'n'
  | '\r' => some 'r'
  | '\t' => some 't'
  | '\x00' => some '0'
  | _ => none

/-- The forms that a character can have inside quotes. -/
inductive IsQuoted (c : Char) : List Char → Prop
  | letter {l : Char} (h : escapeLetter? c = some l) : IsQuoted c ['\\', l]
  | number (h : escapeLetter? c = none) :
    IsQuoted c (['\\', 'u', '\x7b'] ++ Nat.toDigits 16 c.toNat ++ ['\x7d'])
  | plain (h : escapeLetter? c = none) : IsQuoted c [c]

theorem isQuoted_quoteChar (c : Char) : IsQuoted c (quoteChar c) := by
  unfold quoteChar
  split
  iterate 6 exact .letter rfl
  have hletter : escapeLetter? c = none := by
    unfold escapeLetter?
    split <;> first | contradiction | rfl
  split
  · exact .number hletter
  · exact .plain hletter

/-- No two characters share a letter, and no letter is the one in front of numbers. -/
theorem escapeLetter?_inj {c d l : Char} (hc : escapeLetter? c = some l)
    (hd : escapeLetter? d = some l) : c = d := by
  unfold escapeLetter? at hc hd
  split at hc <;> cases hc <;> split at hd <;> first | rfl | cases hd

theorem escapeLetter?_ne {c : Char} : escapeLetter? c ≠ some 'u' := by
  unfold escapeLetter?
  split <;> decide

theorem plain_ne_backslash {c : Char} (h : escapeLetter? c = none) : c ≠ '\\' := by
  rintro rfl
  cases h

/-- Where a character inside quotes ends can be seen from its front. -/
theorem IsQuoted.append_inj {c d : Char} {xs ys s t : List Char} (hc : IsQuoted c xs)
    (hd : IsQuoted d ys) (h : xs ++ s = ys ++ t) : c = d ∧ s = t := by
  -- A plain character is no backslash, and behind a backslash only numbers have the letter `u`.
  cases hc with
  | letter hc =>
    cases hd with
    | letter hd =>
      injection h with _ h
      injection h with hl hrest
      subst hl
      exact ⟨escapeLetter?_inj hc hd, hrest⟩
    | number hd =>
      injection h with _ h
      injection h with hl _
      exact absurd (hl ▸ hc) escapeLetter?_ne
    | plain hd =>
      injection h with hl _
      exact absurd hl.symm (plain_ne_backslash hd)
  | number hc =>
    cases hd with
    | letter hd =>
      injection h with _ h
      injection h with hl _
      exact absurd (hl ▸ hd) escapeLetter?_ne
    | number hd =>
      simp only [List.append_assoc, List.cons_append, List.nil_append] at h
      injection h with _ h
      injection h with _ h
      injection h with _ h
      obtain ⟨hdigits, rfl⟩ :=
        append_mark_inj (brace_notMem_toDigits _) (brace_notMem_toDigits _) h
      exact ⟨Char.toNat_inj.mp (toDigits_inj hdigits), rfl⟩
    | plain hd =>
      injection h with hl _
      exact absurd hl.symm (plain_ne_backslash hd)
  | plain hc =>
    cases hd with
    | letter hd =>
      injection h with hl _
      exact absurd hl (plain_ne_backslash hc)
    | number hd =>
      injection h with hl _
      exact absurd hl (plain_ne_backslash hc)
    | plain hd =>
      injection h with hl hrest
      exact ⟨hl, hrest⟩

/-- No character inside quotes looks like the quote at their end. -/
theorem IsQuoted.append_ne {c : Char} {xs s t : List Char} (h : IsQuoted c xs) :
    xs ++ s ≠ '"' :: t := by
  intro heq
  cases h with
  | letter h => cases heq
  | number h => cases heq
  | plain h =>
    obtain ⟨rfl, -⟩ := List.cons.inj heq
    cases h

/-! ### Texts between quotes -/

/-- Up to the closing quote, the characters of a quoted text are those of the text. -/
theorem flatMap_quoteChar_append_inj {cs ds s t : List Char}
    (h : cs.flatMap quoteChar ++ '"' :: s = ds.flatMap quoteChar ++ '"' :: t) :
    cs = ds ∧ s = t := by
  induction cs generalizing ds with
  | nil =>
    cases ds with
    | nil => exact ⟨rfl, (List.cons.inj h).2⟩
    | cons d ds =>
      rw [List.flatMap_cons, List.append_assoc] at h
      exact absurd h.symm (isQuoted_quoteChar d).append_ne
  | cons c cs ih =>
    cases ds with
    | nil =>
      rw [List.flatMap_cons, List.append_assoc] at h
      exact absurd h (isQuoted_quoteChar c).append_ne
    | cons d ds =>
      simp only [List.flatMap_cons, List.append_assoc] at h
      obtain ⟨rfl, hrest⟩ := (isQuoted_quoteChar c).append_inj (isQuoted_quoteChar d) h
      obtain ⟨rfl, rfl⟩ := ih hrest
      exact ⟨rfl, rfl⟩

/-- Where a quoted text ends can be seen from its front, and it is the quoted form of one text
only. -/
theorem quote_append_inj {x y : String} {s t : List Char}
    (h : (quote x).toList ++ s = (quote y).toList ++ t) : x = y ∧ s = t := by
  simp only [quote, String.toList_ofList, quoteChars, List.cons_append, List.append_assoc,
    List.nil_append] at h
  obtain ⟨hchars, hrest⟩ := flatMap_quoteChar_append_inj (List.cons.inj h).2
  exact ⟨String.toList_inj.mp hchars, hrest⟩

end RecordScript.Text
