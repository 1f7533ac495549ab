import RecordScript.Proofs.Decimal.Positional
import RecordScript.Proofs.Grammar.Lookahead
import RecordScript.Proofs.Printing.Print
import RecordScript.Proofs.Syntax.Decode

/-!
# Reading what is printed, token by token

A token with a blank behind it is taken as a whole, so the tokens of a printed text are read one by
one. The literals and names among them stand for what was printed.
-/

namespace RecordScript

namespace Language

open Reading

/-- The text of tokens as a reading arrives at it. -/
def written (ts : List (List Char)) : List Char := skip (spaced ts)

theorem token_written {scan : Parser.Scanner} (hscan : scan.IsToken) {t : List Char}
    (h : scan t = some (t, [])) (hstart : ∃ c ∈ t.head?, endsLayout c = true)
    (ts : List (List Char)) : token scan (written (t :: ts)) t (written ts) := by
  obtain ⟨c, hc, hends⟩ := hstart
  rcases t with _ | ⟨c', t⟩
  · cases hc
  · obtain rfl : c' = c := by simpa using hc
    have htext : spaced ((c' :: t) :: ts) = (c' :: t) ++ ' ' :: spaced ts := by simp [spaced]
    rw [written, htext, List.cons_append, skip_of_endsLayout hends]
    exact ⟨' ' :: spaced ts, hscan.apart _ rfl h, rfl⟩

theorem sign_written {s : String} (hs : Token.IsSign s)
    (hstart : ∃ c ∈ s.toList.head?, endsLayout c = true) (ts : List (List Char)) :
    sign s (written (s.toList :: ts)) s.toList (written ts) :=
  token_written (Token.isToken_sign hs) (Token.sign_eq_some.mpr ⟨rfl, by simp⟩) hstart ts

/-! ### Words -/

theorem wordWith_written {p : List Char → Bool} {c : Char} {cs : List Char}
    (hc : Token.isWordStart c = true) (hcs : cs.all Token.isWordChar = true)
    (hp : p (c :: cs) = true) (ts : List (List Char)) :
    token (Token.wordWith p) (written ((c :: cs) :: ts)) (c :: cs) (written ts) := by
  have hall : ∀ c ∈ cs, Token.isWordChar c = true := List.all_eq_true.mp hcs
  have hword : Token.word (c :: cs) = some (c :: cs, []) := by
    refine Token.word_eq_some.mpr ⟨c, cs, rfl, hc, ?_, ?_⟩
    · rw [List.takeWhile_eq_self_iff.mpr hall]
    · rw [List.dropWhile_eq_nil_iff.mpr hall]
  exact token_written (Token.isToken_wordWith p) (Token.wordWith_eq_some.mpr ⟨hword, hp⟩)
    ⟨c, rfl, Token.endsLayout_of_isWordStart hc⟩ ts

theorem keyword_written {s : String}
    (h : ∃ c cs, s.toList = c :: cs ∧ Token.isWordStart c = true ∧
      cs.all Token.isWordChar = true) (ts : List (List Char)) :
    keyword s (written (s.toList :: ts)) () (written ts) := by
  obtain ⟨c, cs, heq, hc, hcs⟩ := h
  refine ⟨s.toList, written ts, ?_, rfl, rfl⟩
  rw [Token.keyword_eq, heq]
  exact wordWith_written hc hcs (by simp) ts

theorem isKeyword_eq_true_iff {name : String} :
    Token.isKeyword name.toList = true ↔ name ∈ Token.keywords := by
  simp [Token.isKeyword, String.toList_inj]

theorem bareName_written {name : String} (h : IsBareName name) (ts : List (List Char)) :
    bareName (written (name.toList :: ts)) name.toList (written ts) := by
  obtain ⟨⟨c, cs, heq, hc, hcs⟩, hkeyword⟩ := h
  have hname : Token.isKeyword name.toList = false := by
    rw [← Bool.not_eq_true, isKeyword_eq_true_iff]
    exact hkeyword
  rw [bareName, Token.name_eq, heq]
  rw [heq] at hname
  exact wordWith_written hc hcs (by rw [hname]; rfl) ts

/-! ### Names in braces -/

theorem token_delimited_written {opening close : Char} {oneLine : Bool} {body : List Char}
    (hclose : close ≠ '\\') (hopening : endsLayout opening = true)
    (h : Token.IsBody close oneLine body) (ts : List (List Char)) :
    token (Token.delimited opening close oneLine) (written ((opening :: (body ++ [close])) :: ts))
      (opening :: (body ++ [close])) (written ts) :=
  token_written (Token.isToken_delimited hclose)
    ((Token.delimited_eq_some hclose).mpr ⟨body, h, rfl, (List.append_nil _).symm⟩)
    ⟨opening, rfl, hopening⟩ ts

theorem inner_delimited (opening close : Char) (body : List Char) :
    Token.inner (opening :: (body ++ [close])) = body := by
  simp [Token.inner]

theorem fieldName_written (name : String) (ts : List (List Char)) :
    ∃ spelling, fieldName (written (nameInBraces name :: ts)) spelling (written ts) ∧
      spelling.decode = .ok name := by
  have hbody := Spelling.isBody_escape '\x7d' name.toList
  refine ⟨.braced (Spelling.escape '\x7d' name.toList),
    .inr (map_iff.mpr ⟨nameInBraces name, ?_, ?_⟩), ?_⟩
  · exact token_delimited_written (by decide) (by decide) hbody ts
  · rw [nameInBraces, inner_delimited]
  · rw [NameSpelling.decode, Spelling.unescape_escape rfl rfl]
    simp [Except.map]

/-! ### Numbers -/

theorem number_digits {ds : List Char} (hne : ds ≠ []) (hds : ∀ c ∈ ds, c.isDigit = true) :
    Token.number ds = some (ds, []) := by
  have h : Token.number (ds ++ []) = some (ds, []) := Token.number_whole hne hds (by simp) rfl
  rwa [List.append_nil] at h

theorem number_point {ds : List Char} {d : Char} {fraction : List Char} (hne : ds ≠ [])
    (hds : ∀ c ∈ ds, c.isDigit = true) (hfraction : ∀ c ∈ d :: fraction, c.isDigit = true) :
    Token.number (ds ++ '.' :: d :: fraction) = some (ds ++ '.' :: d :: fraction, []) := by
  obtain ⟨hd, hrest⟩ := List.forall_mem_cons.mp hfraction
  have h : Token.number (ds ++ '.' :: d :: (fraction ++ [])) =
      some (ds ++ '.' :: d :: fraction, []) :=
    Token.number_fraction hne hds hd hrest (by simp)
  rwa [List.append_nil] at h

/-- Digits with or without a point between them are read as the number that they denote. -/
theorem readNumeral_pointed {whole : List Char} (fraction : Option (List Char)) (hne : whole ≠ [])
    (hwhole : ∀ c ∈ whole, c.isDigit = true) (hfraction : ∀ c ∈ fraction.getD [], c.isDigit = true) :
    Decimal.readNumeral (whole ++ Numeral.pointed fraction) =
      some ⟨wholeValue (whole ++ fraction.getD []), (fraction.getD []).length⟩ := by
  have hread := Decimal.readNumeral_chars
    { sign := .none, whole, fraction, exponent := none, whole_isDigit := hwhole
      fraction_isDigit := hfraction, ne_nil := List.append_ne_nil_of_left_ne_nil hne _ }
  simpa [Numeral.chars, Numeral.Sign.chars, Numeral.suffix, Numeral.decimal, Numeral.Sign.factor,
    Numeral.scale, Numeral.places, Numeral.power] using hread

/-- The token of a number is read as a number that is not negative and has no negative scale. -/
theorem readNumeral_of_number {cs taken behind : List Char}
    (h : Token.number cs = some (taken, behind)) :
    ∃ n : Decimal, Decimal.readNumeral taken = some n ∧ 0 ≤ n.digits ∧ 0 ≤ n.scale := by
  obtain ⟨-, -, whole, hne, hwhole, ⟨rfl, -⟩ | ⟨d, places, hd, hplaces, rfl⟩⟩ :=
    Token.number_eq_some h
  · have hread := readNumeral_pointed none hne hwhole (List.forall_mem_nil _)
    rw [Numeral.pointed, Option.elim_none, List.append_nil] at hread
    exact ⟨_, hread, Int.natCast_nonneg _, Int.natCast_nonneg _⟩
  · exact ⟨_, readNumeral_pointed (some (d :: places)) hne hwhole
      (List.forall_mem_cons.mpr ⟨hd, hplaces⟩), Int.natCast_nonneg _, Int.natCast_nonneg _⟩

/-- A number that is not negative and has no negative scale is spelled by its positional notation. -/
theorem number_plainMagnitude [RegexEngine] {n : Decimal} (hdigits : 0 ≤ n.digits)
    (hscale : 0 ≤ n.scale) :
    Token.number n.plainMagnitude = some (n.plainMagnitude, []) ∧
      (LiteralSpelling.number n.plainMagnitude).decode = .ok (.number n) := by
  have hchars : n.plainMagnitude = n.toNumeral.chars := by
    rw [Decimal.chars_toNumeral, Decimal.format, if_neg (by omega), String.toList_ofList]
  have hread : Decimal.readNumeral n.plainMagnitude = some n := by
    rw [hchars, Decimal.readNumeral_chars, Decimal.decimal_toNumeral,
      Decimal.positional_of_nonneg hscale]
  refine ⟨?_, by rw [LiteralSpelling.decode, hread]⟩
  have hwhole : ∀ c ∈ n.wholeDigits, c.isDigit = true := fun _ => Decimal.isDigit_of_mem_wholeDigits
  have hplaces : ∀ c ∈ n.placeDigits.getD [], c.isDigit = true :=
    fun _ => Decimal.isDigit_of_mem_placeDigits
  rw [Decimal.plainMagnitude_eq]
  rcases hfraction : n.placeDigits with _ | _ | ⟨d, fraction⟩
  · simpa [Numeral.pointed] using number_digits n.wholeDigits_ne_nil hwhole
  · exact absurd hfraction n.isPositional_toNumeral.2.2.1
  · rw [hfraction] at hplaces
    exact number_point n.wholeDigits_ne_nil hwhole hplaces

/-! ### Literals -/

theorem isWord_truthWord (b : Bool) :
    ∃ c cs, (Value.truthWord b).toList = c :: cs ∧ Token.isWordStart c = true ∧
      cs.all Token.isWordChar = true := by
  cases b
  · exact ⟨'f', "alse".toList, rfl, rfl, rfl⟩
  · exact ⟨'t', "rue".toList, rfl, rfl, rfl⟩

/-- The literal of a value is read as a spelling that stands for the value. -/
theorem anyLiteral_written [RegexEngine] {value : Value} (h : value.IsSpellable)
    (ts : List (List Char)) :
    ∃ spelling, anyLiteral (written (value.spelled :: ts)) (.literal default spelling)
      (written ts) ∧ spelling.decode = .ok value := by
  cases value with
  | none => exact h.elim
  | boolean b =>
    obtain ⟨c, cs, heq, hc, hcs⟩ := isWord_truthWord b
    refine ⟨.boolean ((Value.truthWord b).toList = "true".toList),
      .inl (map_iff.mpr ⟨(Value.truthWord b).toList, ?_, rfl⟩), by cases b <;> rfl⟩
    rw [Token.boolean_eq, Value.spelled, heq]
    exact wordWith_written hc hcs (by rw [← heq]; cases b <;> rfl) ts
  | number n =>
    obtain ⟨hnumber, hdecode⟩ := number_plainMagnitude h.1 h.2
    refine ⟨_, .inr (.inl (map_iff.mpr ⟨n.plainMagnitude, ?_, rfl⟩)), hdecode⟩
    obtain ⟨c, cs, heq, hc⟩ := Token.exists_of_number hnumber
    exact token_written Token.isToken_number hnumber
      ⟨c, by rw [heq]; rfl, Token.endsLayout_of_isDigit hc⟩ ts
  | string s =>
    refine ⟨.quoted (Spelling.escape '"' s.toList),
      .inr (.inr (.inl (map_iff.mpr ⟨Value.spelled (.string s), ?_, ?_⟩))), ?_⟩
    · have hopening : endsLayout '"' = true := rfl
      obtain ⟨behind, hscan, hskip⟩ := token_delimited_written (by decide) hopening
        (Spelling.isBody_escape '"' s.toList) ts
      exact ⟨behind, Token.quoted_of_double hscan, hskip⟩
    · exact congrArg (fun body => ExprOf.literal default (LiteralSpelling.quoted body))
        (inner_delimited _ _ _)
    · rw [LiteralSpelling.decode, Spelling.unescape_escape rfl rfl]
      simp [Except.map]
  | regex p =>
    obtain ⟨hcase, htext⟩ := h
    obtain ⟨hbody, hunescape⟩ := Spelling.isBody_escapeRegex htext
    refine ⟨.regex (Spelling.escapeRegex p.source.toList),
      .inr (.inr (.inr (map_iff.mpr ⟨Value.spelled (.regex p), ?_, ?_⟩))), ?_⟩
    · exact token_delimited_written (by decide) (by decide) hbody ts
    · exact congrArg (fun body => ExprOf.literal default (LiteralSpelling.regex body))
        (inner_delimited _ _ _)
    · have hsource : Pattern.ofSource p.source false = .ok p :=
        Pattern.ofSource_eq_ok.mpr ⟨rfl, hcase⟩
      rw [LiteralSpelling.decode, hunescape, String.ofList_toList, hsource]

end Language

end RecordScript
