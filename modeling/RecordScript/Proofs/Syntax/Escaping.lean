import Mathlib.Data.List.Induction
import RecordScript.Proofs.Grammar.Parser
import RecordScript.Proofs.Grammar.Start
import RecordScript.Proofs.Printing.Escape
import RecordScript.Proofs.Syntax.Decode

/-!
# All spellings of texts and names

A text between quotes and a name between braces are spelled character by character: a character
stands for itself, or it is escaped by a letter or by its number. Whatever spellings are chosen, the
scanner that looks for the closing character and the decoder that replaces the escapes agree on
them. What is no spelling has a first faulty escape, and this is the problem of the literal.
-/

namespace RecordScript

/-- What stands around a text or around a name. -/
inductive Delimiter where
  | double
  | single
  | braces
deriving DecidableEq, Repr

/-! ### Spellings -/

namespace Spelling

/-- Hexadecimal digits, each of either case, and the number that they denote. -/
inductive IsHexNumeral : List Char → Nat → Prop
  | nil : IsHexNumeral [] 0
  | snoc {digits : List Char} {n v : Nat} {d : Char} (front : IsHexNumeral digits n)
      (digit : "0123456789abcdef".toList[v]? = some d ∨ "0123456789ABCDEF".toList[v]? = some d) :
      IsHexNumeral (digits ++ [d]) (n * 16 + v)

/-- The letters that escape a character, and these characters. -/
def shortEscapes : List (Char × Char) :=
  [('\\', '\\'), ('\x7d', '\x7d'), ('a', '\x07'), ('b', '\x08'), ('f', '\x0c'), ('n', '\n'),
    ('r', '\r'), ('t', '\t'), ('v', '\x0b')]

/-- The letters before the number of a character, and how many digits the number has. -/
def numberEscapes : List (Char × Nat) := [('x', 2), ('u', 4), ('U', 8)]

end Spelling

namespace Delimiter

open Spelling

/-- The character in front. -/
def opening : Delimiter → Char
  | double => '"'
  | single => '\''
  | braces => '\x7b'

/-- The character behind. -/
def closing : Delimiter → Char
  | double => '"'
  | single => '\''
  | braces => '\x7d'

/-- Whether a text stands between the delimiters, where quotes can be escaped. -/
def quoted : Delimiter → Bool
  | double | single => true
  | braces => false

/-- A spelling of one character. -/
inductive SpellsChar (d : Delimiter) : Char → List Char → Prop
  | raw {c : Char} (notBackslash : c ≠ '\\') (notClosing : c ≠ d.closing) : SpellsChar d c [c]
  | short {letter c : Char} (escape : (letter, c) ∈ shortEscapes) : SpellsChar d c ['\\', letter]
  | quote {c : Char} (isQuoted : d.quoted = true) (isQuote : c = '"' ∨ c = '\'') :
      SpellsChar d c ['\\', c]
  | number {letter c : Char} {width : Nat} {digits : List Char}
      (escape : (letter, width) ∈ numberEscapes) (complete : digits.length = width)
      (number : IsHexNumeral digits c.toNat) : SpellsChar d c ('\\' :: letter :: digits)

/-- A spelling of a text, character by character. -/
inductive Spells (d : Delimiter) : List Char → List Char → Prop
  | nil : Spells d [] []
  | cons {c : Char} {text spelled body : List Char} (first : SpellsChar d c spelled)
      (others : Spells d text body) : Spells d (c :: text) (spelled ++ body)

/-- A body that starts with an escape that stands for nothing: of an unknown letter, with too few
digits, or with the number of no character. -/
inductive IsFaulty (d : Delimiter) : List Char → SyntaxProblem → Prop
  | unknown {letter : Char} (notShort : ∀ c, (letter, c) ∉ shortEscapes)
      (notQuote : ¬ (d.quoted = true ∧ (letter = '"' ∨ letter = '\'')))
      (notNumber : ∀ width, (letter, width) ∉ numberEscapes) (rest : List Char) :
      IsFaulty d ('\\' :: letter :: rest) (.unknownEscape letter)
  | malformed {letter : Char} {width : Nat} {rest : List Char}
      (escape : (letter, width) ∈ numberEscapes)
      (incomplete : ¬ ∃ digits behind n, rest = digits ++ behind ∧ digits.length = width ∧
        IsHexNumeral digits n) :
      IsFaulty d ('\\' :: letter :: rest) (.malformedEscape (rest.take width) width)
  | noCharacter {letter : Char} {width n : Nat} {digits : List Char}
      (escape : (letter, width) ∈ numberEscapes) (complete : digits.length = width)
      (number : IsHexNumeral digits n) (invalid : 0xd800 ≤ n ∧ n ≤ 0xdfff ∨ 0x10ffff < n)
      (rest : List Char) : IsFaulty d ('\\' :: letter :: (digits ++ rest)) (.noSuchCharacter digits)

end Delimiter

/-! ### Numbers of characters -/

namespace Spelling

/-- The value of a hexadecimal digit, as the decoder takes it. -/
def hexDigitValue (c : Char) : Nat :=
  if c.isDigit then c.toNat - '0'.toNat else c.toLower.toNat - 'a'.toNat + 10

theorem hexValue_concat (digits : List Char) (d : Char) :
    hexValue (digits ++ [d]) = hexValue digits * 16 + hexDigitValue d := by
  rw [hexValue, List.foldl_append]
  rfl

theorem mem_of_isHexDigit {c : Char} (h : isHexDigit c = true) :
    c ∈ "0123456789abcdefABCDEF".toList := by
  -- Digits are among the first characters, which are gone through one by one.
  have hlt : c.toNat < 103 := by
    simp only [isHexDigit, Char.isDigit, Bool.or_eq_true, Bool.and_eq_true, decide_eq_true_eq,
      Char.le_def, UInt32.le_iff_toNat_le, ge_iff_le] at h
    change (48 ≤ c.toNat ∧ c.toNat ≤ 57 ∨ 97 ≤ c.toNat ∧ c.toNat ≤ 102) ∨
      65 ≤ c.toNat ∧ c.toNat ≤ 70 at h
    omega
  have hall : ∀ n < 103, isHexDigit (Char.ofNat n) = true →
      Char.ofNat n ∈ "0123456789abcdefABCDEF".toList := by decide
  have hmem := hall c.toNat hlt
  rw [Char.ofNat_toNat] at hmem
  exact hmem h

/-- The digits with a value are the ones that the decoder knows, with this value. -/
theorem isDigit_iff {d : Char} {v : Nat} :
    ("0123456789abcdef".toList[v]? = some d ∨ "0123456789ABCDEF".toList[v]? = some d) ↔
      isHexDigit d = true ∧ hexDigitValue d = v := by
  constructor
  · intro h
    have hall : ∀ v < 16, ∀ digits ∈ ["0123456789abcdef".toList, "0123456789ABCDEF".toList],
        isHexDigit (digits.getD v ' ') = true ∧ hexDigitValue (digits.getD v ' ') = v := by decide
    have hdigit : ∀ digits ∈ ["0123456789abcdef".toList, "0123456789ABCDEF".toList],
        digits[v]? = some d → v < 16 → isHexDigit d = true ∧ hexDigitValue d = v := by
      intro digits hdigits hd hv
      have hvalue := hall v hv digits hdigits
      rwa [List.getD_eq_getElem?_getD, hd, Option.getD_some] at hvalue
    rcases h with h | h
    · exact hdigit _ (by simp) h (List.getElem?_eq_some_iff.mp h).1
    · exact hdigit _ (by simp) h (List.getElem?_eq_some_iff.mp h).1
  · rintro ⟨hd, rfl⟩
    have hall : ∀ d ∈ "0123456789abcdefABCDEF".toList,
        "0123456789abcdef".toList[hexDigitValue d]? = some d ∨
          "0123456789ABCDEF".toList[hexDigitValue d]? = some d := by decide
    exact hall d (mem_of_isHexDigit hd)

/-- Digits denote the number that the decoder computes from them. -/
theorem isHexNumeral_iff {digits : List Char} {n : Nat} :
    IsHexNumeral digits n ↔ digits.all isHexDigit = true ∧ hexValue digits = n := by
  constructor
  · intro h
    induction h with
    | nil => exact ⟨rfl, rfl⟩
    | snoc _ digit ih =>
      obtain ⟨hd, rfl⟩ := isDigit_iff.mp digit
      rw [List.all_append, ih.1, hexValue_concat, ih.2]
      exact ⟨by simp [hd], rfl⟩
  · rintro ⟨hdigits, rfl⟩
    induction digits using List.reverseRecOn with
    | nil => exact .nil
    | append_singleton digits d ih =>
      rw [List.all_append, Bool.and_eq_true] at hdigits
      rw [hexValue_concat]
      exact .snoc (ih hdigits.1) (isDigit_iff.mpr ⟨by simpa using hdigits.2, rfl⟩)

theorem escapeWidth?_eq_some {letter : Char} {width : Nat} :
    escapeWidth? letter = some width ↔ (letter, width) ∈ numberEscapes := by
  unfold escapeWidth?
  split <;> simp_all [numberEscapes, eq_comm]

theorem simpleEscape?_eq_some {quoted : Bool} {letter c : Char} :
    simpleEscape? quoted letter = some c ↔
      (letter, c) ∈ shortEscapes ∨ quoted = true ∧ letter = c ∧ (c = '"' ∨ c = '\'') := by
  unfold simpleEscape?
  split <;> simp_all [shortEscapes, eq_comm]
  rintro - rfl
  exact ⟨‹_›, ‹_›⟩

/-! ### One escape -/

theorem numbered_of_isHexNumeral {digits : List Char} {n : Nat} (h : IsHexNumeral digits n) :
    numbered digits digits.length =
      if hn : n.isValidChar then .ok (Char.ofNatAux n hn)
      else .error (.noSuchCharacter digits) := by
  obtain ⟨hdigits, rfl⟩ := isHexNumeral_iff.mp h
  rw [numbered, if_pos ⟨rfl, hdigits⟩]

theorem numbered_toNat {digits : List Char} {c : Char} (h : IsHexNumeral digits c.toNat) :
    numbered digits digits.length = .ok c := by
  have hvalid : c.toNat.isValidChar := c.valid
  rw [numbered_of_isHexNumeral h, dif_pos hvalid]
  exact congrArg Except.ok (Char.ext rfl)

section Escape

variable {quoted : Bool} {letter : Char} {width : Nat} {rest : List Char}

theorem unescape_number (h : escapeWidth? letter = some width) :
    unescape quoted ('\\' :: letter :: rest) = (numbered (rest.take width) width).bind fun c =>
      (unescape quoted (rest.drop width)).map (c :: ·) := by
  rw [unescape.eq_def]
  simp only [ne_eq, not_true_eq_false, if_false, h]
  cases numbered (rest.take width) width <;> rfl

theorem unescape_unknown (hwidth : escapeWidth? letter = none)
    (hsimple : simpleEscape? quoted letter = none) :
    unescape quoted ('\\' :: letter :: rest) = .error (.unknownEscape letter) := by
  rw [unescape.eq_def]
  simp [hwidth, hsimple]

end Escape

end Spelling

namespace Delimiter

open Spelling
open Token (IsBody)

variable {d : Delimiter}

theorem closing_ne_backslash (d : Delimiter) : d.closing ≠ '\\' := by cases d <;> decide

theorem isHexDigit_closing (d : Delimiter) : isHexDigit d.closing = false := by cases d <;> rfl

/-- Digits are no part of an escape and close nothing. -/
theorem isBody_digits_append {digits : List Char} (h : digits.all isHexDigit = true)
    {rest : List Char} :
    IsBody d.closing false (digits ++ rest) ↔ IsBody d.closing false rest := by
  induction digits with
  | nil => rfl
  | cons c digits ih =>
    rw [List.all_cons, Bool.and_eq_true] at h
    have hslash : c ≠ '\\' := by
      rintro rfl
      exact absurd h.1 (by decide)
    have hclosing : c ≠ d.closing := by
      rintro rfl
      rw [isHexDigit_closing] at h
      cases h.1
    rw [List.cons_append, ← ih h.2]
    -- What follows the digit is a body in either case.
    generalize digits ++ rest = more
    constructor
    · intro hbody
      cases hbody with
      | escape => exact absurd rfl hslash
      | plain _ _ _ inside => exact inside
    · exact .plain hslash hclosing (by simp)

theorem SpellsChar.isBody_append {c : Char} {spelled rest : List Char} (h : d.SpellsChar c spelled)
    (hrest : IsBody d.closing false rest) : IsBody d.closing false (spelled ++ rest) := by
  cases h with
  | raw notBackslash notClosing => exact .plain notBackslash notClosing (by simp) hrest
  | short => exact .escape hrest
  | quote => exact .escape hrest
  | number _ _ number =>
    exact .escape ((isBody_digits_append (isHexNumeral_iff.mp number).1).mpr hrest)

theorem SpellsChar.unescape_append {c : Char} {spelled : List Char} (h : d.SpellsChar c spelled)
    (rest : List Char) :
    unescape d.quoted (spelled ++ rest) = (unescape d.quoted rest).map (c :: ·) := by
  cases h with
  | raw notBackslash => exact unescape_cons notBackslash rest
  | @short letter _ escape =>
    have hwidth : ∀ e ∈ shortEscapes, escapeWidth? e.1 = none := by decide
    exact unescape_simple (hwidth _ escape) (simpleEscape?_eq_some.mpr (.inl escape)) rest
  | quote isQuoted isQuote =>
    refine unescape_simple ?_ (simpleEscape?_eq_some.mpr (.inr ⟨isQuoted, rfl, isQuote⟩)) rest
    rcases isQuote with rfl | rfl <;> rfl
  | number escape complete number =>
    subst complete
    rw [List.cons_append, List.cons_append, unescape_number (escapeWidth?_eq_some.mpr escape),
      List.take_left, List.drop_left, numbered_toNat number]
    rfl

/-! ### Whole bodies -/

/-- A spelling of a text does not close the literal that it stands in. -/
theorem Spells.isBody {text body : List Char} (h : d.Spells text body) :
    IsBody d.closing false body := by
  induction h with
  | nil => exact .nil
  | cons first _ ih => exact first.isBody_append ih

theorem Spells.unescape_append {text body : List Char} (h : d.Spells text body) (rest : List Char) :
    unescape d.quoted (body ++ rest) = (unescape d.quoted rest).map (text ++ ·) := by
  induction h with
  | nil => cases hrest : unescape d.quoted rest <;> simp [Except.map, hrest]
  | cons first _ ih =>
    rw [List.append_assoc, first.unescape_append, ih]
    cases unescape d.quoted rest <;> rfl

/-- Every spelling of a text stands for the text. -/
theorem Spells.unescape_eq {text body : List Char} (h : d.Spells text body) :
    unescape d.quoted body = .ok text := by
  have hbody := h.unescape_append []
  rw [List.append_nil, unescape] at hbody
  rw [hbody]
  exact congrArg Except.ok (List.append_nil text)

theorem IsFaulty.unescape_eq {tail : List Char} {problem : SyntaxProblem}
    (h : d.IsFaulty tail problem) : unescape d.quoted tail = .error problem := by
  cases h with
  | unknown notShort notQuote notNumber rest =>
    refine unescape_unknown ?_ ?_
    · exact Option.eq_none_iff_forall_ne_some.mpr fun width hwidth =>
        notNumber width (escapeWidth?_eq_some.mp hwidth)
    · refine Option.eq_none_iff_forall_ne_some.mpr fun c hc => ?_
      rcases simpleEscape?_eq_some.mp hc with hshort | ⟨hquoted, rfl, hquote⟩
      · exact notShort c hshort
      · exact notQuote ⟨hquoted, hquote⟩
  | @malformed letter width rest escape incomplete =>
    rw [unescape_number (escapeWidth?_eq_some.mpr escape), numbered, if_neg]
    · rfl
    · rintro ⟨hlength, hdigits⟩
      exact incomplete ⟨rest.take width, rest.drop width, _, (List.take_append_drop _ _).symm,
        hlength, isHexNumeral_iff.mpr ⟨hdigits, rfl⟩⟩
  | @noCharacter letter width n digits escape complete number invalid rest =>
    have hn : ¬ n.isValidChar := by
      rw [Nat.isValidChar]
      omega
    subst complete
    rw [unescape_number (escapeWidth?_eq_some.mpr escape), List.take_left,
      numbered_of_isHexNumeral number, dif_neg hn]
    rfl

/-- The body goes on with the spelling of a character, or it starts with a faulty escape. -/
def GoesOn (d : Delimiter) (body : List Char) : Prop :=
  (∃ c spelled rest, body = spelled ++ rest ∧ spelled ≠ [] ∧ d.SpellsChar c spelled ∧
    IsBody d.closing false rest) ∨ ∃ problem, d.IsFaulty body problem

theorem SpellsChar.goesOn {c : Char} {spelled rest : List Char} (h : d.SpellsChar c spelled)
    (hrest : IsBody d.closing false rest) : d.GoesOn (spelled ++ rest) := by
  refine .inl ⟨c, spelled, rest, rfl, ?_, h, hrest⟩
  cases h <;> exact List.cons_ne_nil _ _

theorem goesOn_number {letter : Char} {width : Nat} {inner : List Char}
    (hescape : (letter, width) ∈ numberEscapes) (inside : IsBody d.closing false inner) :
    d.GoesOn ('\\' :: letter :: inner) := by
  by_cases hdigits : ∃ digits behind n, inner = digits ++ behind ∧ digits.length = width ∧
      IsHexNumeral digits n
  · obtain ⟨digits, behind, n, rfl, hcomplete, hnumber⟩ := hdigits
    by_cases hn : n.isValidChar
    · have hchar : d.SpellsChar (Char.ofNatAux n hn) ('\\' :: letter :: digits) :=
        .number hescape hcomplete hnumber
      exact hchar.goesOn ((isBody_digits_append (isHexNumeral_iff.mp hnumber).1).mp inside)
    · rw [Nat.isValidChar] at hn
      exact .inr ⟨_, .noCharacter hescape hcomplete hnumber (by omega) behind⟩
  · exact .inr ⟨_, .malformed hescape hdigits⟩

theorem goesOn_letter {letter : Char} {inner : List Char} (hwidth : escapeWidth? letter = none)
    (inside : IsBody d.closing false inner) : d.GoesOn ('\\' :: letter :: inner) := by
  cases hsimple : simpleEscape? d.quoted letter with
  | some c =>
    rcases simpleEscape?_eq_some.mp hsimple with hshort | ⟨hquoted, rfl, hquote⟩
    · exact (SpellsChar.short hshort).goesOn inside
    · exact (SpellsChar.quote hquoted hquote).goesOn inside
  | none =>
    refine .inr ⟨_, .unknown (fun c hc => ?_) (fun hquote => ?_) (fun width hw => ?_) inner⟩
    · rw [simpleEscape?_eq_some.mpr (.inl hc)] at hsimple
      cases hsimple
    · rw [simpleEscape?_eq_some.mpr (.inr ⟨hquote.1, rfl, hquote.2⟩)] at hsimple
      cases hsimple
    · rw [escapeWidth?_eq_some.mpr hw] at hwidth
      cases hwidth

theorem goesOn_of_isBody {body : List Char} (h : IsBody d.closing false body) (hne : body ≠ []) :
    d.GoesOn body := by
  cases h with
  | nil => exact absurd rfl hne
  | plain notBackslash notClose _ inside =>
    exact (SpellsChar.raw notBackslash notClose).goesOn inside
  | @escape letter inner inside =>
    cases hwidth : escapeWidth? letter with
    | some width => exact goesOn_number (escapeWidth?_eq_some.mp hwidth) inside
    | none => exact goesOn_letter hwidth inside

/-- A body is the spelling of a text, or it has a first faulty escape. -/
theorem spells_or_isFaulty {body : List Char} (h : IsBody d.closing false body) :
    (∃ text, d.Spells text body) ∨ ∃ text front tail problem, body = front ++ tail ∧
      d.Spells text front ∧ d.IsFaulty tail problem := by
  -- An escape by number takes digits from the rest of the body, so the induction is on its length.
  induction hlength : body.length using Nat.strongRecOn generalizing body with
  | ind n ih =>
    subst hlength
    by_cases hne : body = []
    · subst hne
      exact .inl ⟨[], .nil⟩
    · rcases goesOn_of_isBody h hne with
        ⟨c, spelled, rest, rfl, hspelled, hchar, hrest⟩ | ⟨problem, hproblem⟩
      · have hlt : rest.length < (spelled ++ rest).length := by
          rw [List.length_append]
          exact Nat.lt_add_of_pos_left (List.length_pos_iff.mpr hspelled)
        rcases ih _ hlt hrest rfl with
          ⟨text, htext⟩ | ⟨text, front, tail, problem, rfl, hfront, htail⟩
        · exact .inl ⟨c :: text, .cons hchar htext⟩
        · exact .inr ⟨c :: text, spelled ++ front, tail, problem, (List.append_assoc _ _ _).symm,
            .cons hchar hfront, htail⟩
      · exact .inr ⟨[], [], body, problem, rfl, .nil, hproblem⟩

end Delimiter

end RecordScript
