import RecordScript.Proofs.Grammar.Token
import RecordScript.Syntax.Spelling

/-!
# Escapes

How texts, field names, patterns and numbers are written so that they can be read again. Whatever
stands between the delimiters of a literal must not close it, so closing characters are escaped; in a
pattern only the slash is, because every other escape belongs to the language of patterns.
-/

namespace RecordScript

namespace Spelling

open Token (IsBody)

/-- The text with a backslash before every backslash and every closing character. -/
def escape (close : Char) (cs : List Char) : List Char :=
  cs.flatMap fun c => if c = '\\' ∨ c = close then ['\\', c] else [c]

variable {close : Char}

theorem escape_cons_of_mem {c : Char} (h : c = '\\' ∨ c = close) (cs : List Char) :
    escape close (c :: cs) = '\\' :: c :: escape close cs := by
  rw [escape, List.flatMap_cons, if_pos h]
  rfl

theorem escape_cons_of_not {c : Char} (h : ¬ (c = '\\' ∨ c = close)) (cs : List Char) :
    escape close (c :: cs) = c :: escape close cs := by
  rw [escape, List.flatMap_cons, if_neg h]
  rfl

/-- An escaped text does not close the literal that it stands in. -/
theorem isBody_escape (close : Char) (cs : List Char) : IsBody close false (escape close cs) := by
  induction cs with
  | nil => exact .nil
  | cons c cs ih =>
    by_cases h : c = '\\' ∨ c = close
    · rw [escape_cons_of_mem h]
      exact .escape ih
    · rw [escape_cons_of_not h]
      obtain ⟨hslash, hclose⟩ := not_or.mp h
      exact .plain hslash hclose (by simp) ih

theorem unescape_cons {quoted : Bool} {c : Char} (h : c ≠ '\\') (cs : List Char) :
    unescape quoted (c :: cs) = (unescape quoted cs).map (c :: ·) := by
  rw [unescape.eq_def]
  exact if_pos h

theorem unescape_simple {quoted : Bool} {letter decoded : Char} (hwidth : escapeWidth? letter = none)
    (hsimple : simpleEscape? quoted letter = some decoded) (cs : List Char) :
    unescape quoted ('\\' :: letter :: cs) = (unescape quoted cs).map (decoded :: ·) := by
  rw [unescape.eq_def]
  simp [hwidth, hsimple]

/-- An escaped text stands for the text, if the closing character may be escaped. -/
theorem unescape_escape {quoted : Bool} (hwidth : escapeWidth? close = none)
    (hclose : simpleEscape? quoted close = some close) (cs : List Char) :
    unescape quoted (escape close cs) = .ok cs := by
  induction cs with
  | nil => rw [escape, List.flatMap_nil, unescape]
  | cons c cs ih =>
    by_cases h : c = '\\' ∨ c = close
    · have hletter : escapeWidth? c = none ∧ simpleEscape? quoted c = some c := by
        rcases h with rfl | rfl
        · exact ⟨rfl, rfl⟩
        · exact ⟨hwidth, hclose⟩
      rw [escape_cons_of_mem h, unescape_simple hletter.1 hletter.2, ih]
      rfl
    · rw [escape_cons_of_not h, unescape_cons (not_or.mp h).1, ih]
      rfl

/-- The text of a pattern with every slash escaped that is not behind a backslash already. -/
def escapeRegex : List Char → List Char
  | '\\' :: c :: cs => '\\' :: c :: escapeRegex cs
  | c :: cs => if c = '/' then '\\' :: '/' :: escapeRegex cs else c :: escapeRegex cs
  | [] => []

/-- The texts of patterns that a pattern literal can spell. -/
def IsRegexText (text : List Char) : Prop :=
  ∃ body, IsBody '/' true body ∧ unescapeRegex body = text

theorem unescapeRegex_cons {c : Char} (h : c ≠ '\\') (cs : List Char) :
    unescapeRegex (c :: cs) = c :: unescapeRegex cs := by
  rw [unescapeRegex]
  · exact fun _ h' => absurd h' h
  · exact fun _ _ h' => absurd h' h

theorem unescapeRegex_pair {c : Char} (h : c ≠ '/') (cs : List Char) :
    unescapeRegex ('\\' :: c :: cs) = '\\' :: c :: unescapeRegex cs := by
  rw [unescapeRegex]
  exact h

theorem escapeRegex_cons {c : Char} (h : c ≠ '\\') (h' : c ≠ '/') (cs : List Char) :
    escapeRegex (c :: cs) = c :: escapeRegex cs := by
  rw [escapeRegex, if_neg h']
  exact fun _ _ h'' => absurd h'' h

/-- A pattern that can be spelled is spelled by its escaped text. -/
theorem isBody_escapeRegex {text : List Char} (h : IsRegexText text) :
    IsBody '/' true (escapeRegex text) ∧ unescapeRegex (escapeRegex text) = text := by
  obtain ⟨body, hbody, rfl⟩ := h
  induction hbody with
  | nil => exact ⟨.nil, rfl⟩
  | @escape c inner _ ih =>
    by_cases hc : c = '/'
    · subst hc
      exact ⟨.escape ih.1, congrArg ('/' :: ·) ih.2⟩
    · rw [unescapeRegex_pair hc, escapeRegex, unescapeRegex_pair hc]
      exact ⟨.escape ih.1, by rw [ih.2]⟩
  | @plain c inner hslash hclose hline _ ih =>
    rw [unescapeRegex_cons hslash, escapeRegex_cons hslash hclose, unescapeRegex_cons hslash]
    exact ⟨.plain hslash hclose hline ih.1, by rw [ih.2]⟩

end Spelling

end RecordScript
