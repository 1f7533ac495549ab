import RecordScript.Pattern.PlaceEngine
import RecordScript.Proofs.Grammar.Completeness
import RecordScript.Proofs.Printing.Token
import RecordScript.Proofs.Syntax.Escaping

/-!
# Texts and names between delimiters

Wherever a text between quotes or a name between braces can stand, it is read as one literal that
ends at its closing character. What it stands for is the text that it spells, and a faulty escape in
it is an error at its position.
-/

namespace RecordScript

namespace Parser

variable {α : Type} {p q : Parser α} {c c' : Cursor} {a : α}

theorem outcome_orElse_left (h : (p c).outcome = some (a, c')) :
    ((p <|> q) c).outcome = some (a, c') := by
  rw [outcome_orElse, h, Option.some_or]

theorem outcome_orElse_right (h : Fails p c.rest) :
    ((p <|> q) c).outcome = (q c).outcome := by
  rw [outcome_orElse, h c rfl, Option.none_or]

end Parser

namespace Grammar

open RecordScript.Parser

section Outcomes

variable {c : Cursor} {scan : Scanner} {taken behind : List Char}

theorem outcome_literal (h : scan c.rest = some (taken, behind)) (construct : Construct)
    (spelling : List Char → LiteralSpelling) :
    (literal construct scan spelling c).outcome =
      some (.literal c.position (spelling taken), (c.after taken behind).skipLayout) := by
  have htoken : (token scan c).outcome = some (taken, (c.after taken behind).skipLayout) := by
    rw [token, h]
  rw [literal, outcome_bind]
  simp only [here, Option.bind_some]
  rw [outcome_bind, outcome_named, htoken]
  rfl

theorem fails_anyLiteral_brace (cs : List Char) : Fails anyLiteral ('\x7b' :: cs) := by
  have hboolean : Token.boolean ('\x7b' :: cs) = none :=
    Token.boolean_eq ▸ Token.wordWith_of_word _ (Token.word_cons_of_not rfl cs)
  exact (fails_literal hboolean).orElse
    ((fails_literal (Token.number_cons_of_not rfl cs)).orElse
      ((fails_literal (Token.quoted_cons_of_not (by decide) cs)).orElse
        (fails_literal (Token.delimited_cons_of_ne (by decide) cs))))

theorem fails_bareName_brace (cs : List Char) : Fails bareName ('\x7b' :: cs) := by
  have hname : Token.name ('\x7b' :: cs) = none :=
    Token.name_eq ▸ Token.wordWith_of_word _ (Token.word_cons_of_not rfl cs)
  exact (fails_token hname).named _

theorem fails_call_brace (limit : Nat) (expr : Parser SpelledExpr) (cs : List Char) :
    Fails (call limit expr) ('\x7b' :: cs) :=
  (fails_here_bind fun _ => (fails_bareName_brace cs).bind _).named _

end Outcomes

end Grammar

namespace Delimiter

open RecordScript.Parser Grammar

/-- The literal of a text, or the field of a name, as it is spelled. -/
def node (pos : Position) (body : List Char) : Delimiter → SpelledExpr
  | double | single => .literal pos (.quoted body)
  | braces => .field pos (.braced body)

/-- The literal of a text, or the field of a name. -/
def value [RegexEngine] (pos : Position) (s : String) : Delimiter → Expr
  | double | single => .literal pos (.string s)
  | braces => .field pos s

/-- The cursor behind the delimiters and the body between them. -/
def behind (c : Cursor) (body rest : List Char) (d : Delimiter) : Cursor :=
  (c.after (d.opening :: (body ++ [d.closing])) rest).skipLayout

/-- Between the delimiters the body is read as one literal or as one name, which ends at the closing
character; a name in braces also where a field is assigned to. -/
def IsRead (c : Cursor) (body rest : List Char) (d : Delimiter) : Prop :=
  (∀ limit expr, (primary limit expr c).outcome =
    some (d.node c.position body, d.behind c body rest)) ∧
  (d = braces → (fieldName c).outcome = some (.braced body, d.behind c body rest))

variable {d : Delimiter} {c : Cursor} {body rest : List Char}

theorem delimited_rest (hbody : Token.IsBody d.closing false body)
    (h : c.rest = d.opening :: (body ++ d.closing :: rest)) :
    Token.delimited d.opening d.closing false c.rest =
      some (d.opening :: (body ++ [d.closing]), rest) :=
  (Token.delimited_eq_some d.closing_ne_backslash).mpr ⟨body, hbody, rfl, by rw [h]; simp⟩

theorem quoted_rest (hd : d.quoted = true) (hbody : Token.IsBody d.closing false body)
    (h : c.rest = d.opening :: (body ++ d.closing :: rest)) :
    Token.quoted c.rest = some (d.opening :: (body ++ [d.closing]), rest) := by
  have hdelimited := delimited_rest hbody h
  cases d with
  | double => exact Token.quoted_of_double hdelimited
  | single => exact Token.quoted_of_single hdelimited
  | braces => cases hd

theorem primary_of_quoted (hd : d.quoted = true) (hbody : Token.IsBody d.closing false body)
    (h : c.rest = d.opening :: (body ++ d.closing :: rest)) (limit : Nat)
    (expr : Parser SpelledExpr) :
    (primary limit expr c).outcome =
      some (.literal c.position (.quoted body), d.behind c body rest) := by
  have hword : Token.isWordStart d.opening = false := by cases d <;> rfl
  have hdigit : d.opening.isDigit = false := by cases d <;> rfl
  have hboolean : Token.boolean c.rest = none := by
    rw [h, Token.boolean_eq]
    exact Token.wordWith_of_word _ (Token.word_cons_of_not hword _)
  have hnumber : Token.number c.rest = none := h ▸ Token.number_cons_of_not hdigit _
  refine outcome_orElse_left ?_
  rw [anyLiteral, outcome_orElse_right (fails_literal hboolean),
    outcome_orElse_right (fails_literal hnumber)]
  refine outcome_orElse_left ?_
  rw [outcome_literal (quoted_rest hd hbody h), Language.inner_delimited]
  rfl

theorem fieldName_of_braces (hbody : Token.IsBody '\x7d' false body)
    (h : c.rest = '\x7b' :: (body ++ '\x7d' :: rest)) :
    (fieldName c).outcome = some (.braced body, braces.behind c body rest) := by
  have htoken := delimited_rest (d := braces) hbody h
  have hname : Fails (NameSpelling.bare <$> bareName) c.rest := h ▸ (fails_bareName_brace _).map _
  rw [fieldName, outcome_orElse_right hname, outcome_map, bracedName, outcome_named, token,
    Token.bracedName]
  change Token.delimited '\x7b' '\x7d' false c.rest = _ at htoken
  rw [htoken]
  simp only [Option.map_some, behind, opening, closing]
  rw [Language.inner_delimited]

/-- A body that does not close its delimiters is read up to the closing character. -/
theorem isRead_of_isBody (hbody : Token.IsBody d.closing false body)
    (h : c.rest = d.opening :: (body ++ d.closing :: rest)) : d.IsRead c body rest := by
  cases d with
  | double =>
    exact ⟨fun limit expr => primary_of_quoted (d := double) rfl hbody h limit expr, by rintro ⟨⟩⟩
  | single =>
    exact ⟨fun limit expr => primary_of_quoted (d := single) rfl hbody h limit expr, by rintro ⟨⟩⟩
  | braces =>
    have hname := fieldName_of_braces hbody h
    refine ⟨fun limit expr => ?_, fun _ => hname⟩
    change c.rest = '\x7b' :: (body ++ '\x7d' :: rest) at h
    have hliteral : Fails anyLiteral c.rest := h ▸ fails_anyLiteral_brace _
    have hcall := (fails_call_brace limit expr (body ++ '\x7d' :: rest)).map
      fun found => ExprOf.call found.1 found.2.1 found.2.2
    rw [primary, outcome_orElse_right hliteral, outcome_orElse_right (h ▸ hcall)]
    refine outcome_orElse_left ?_
    rw [fieldRead, outcome_bind]
    simp only [here, Option.bind_some]
    rw [outcome_bind, outcome_named, hname]
    rfl

theorem decode_node [RegexEngine] (d : Delimiter) (pos : Position) (body : List Char) :
    (d.node pos body).decode = (problemAt pos (Spelling.unescape d.quoted body)).map fun cs =>
      d.value pos (String.ofList cs) := by
  cases d with
  | double | single =>
    rw [node, SpelledExpr.decode, LiteralSpelling.decode, quoted]
    cases Spelling.unescape true body <;> rfl
  | braces =>
    rw [node, SpelledExpr.decode, NameSpelling.decode, quoted]
    cases Spelling.unescape false body <;> rfl

/-- Between its delimiters every spelling of a text is read as one literal that stands for the text,
or as the name of the field. What is read between them is such a spelling, or it has a first faulty
escape; this is then the error, at the position of the literal. -/
theorem read_spelling [RegexEngine] (d : Delimiter) (c : Cursor) (body rest : List Char)
    (h : c.rest = d.opening :: (body ++ d.closing :: rest)) :
    (∀ s : String, d.Spells s.toList body →
      d.IsRead c body rest ∧ (d.node c.position body).decode = .ok (d.value c.position s)) ∧
    (Token.IsBody d.closing false body → d.IsRead c body rest ∧
      ((∃ s : String, d.Spells s.toList body) ∨
        ∃ text front tail problem, body = front ++ tail ∧ d.Spells text front ∧
          d.IsFaulty tail problem)) ∧
    ∀ text front tail problem, body = front ++ tail → d.Spells text front →
      d.IsFaulty tail problem → (d.node c.position body).decode = .error ⟨c.position, problem⟩ := by
  refine ⟨fun s hs => ⟨isRead_of_isBody hs.isBody h, ?_⟩,
    fun hbody => ⟨isRead_of_isBody hbody h, ?_⟩,
    fun text front tail problem hsplit hfront htail => ?_⟩
  · rw [decode_node, hs.unescape_eq]
    simp [problemAt, Except.map]
  · refine (spells_or_isFaulty hbody).imp_left fun hspells => ?_
    obtain ⟨text, htext⟩ := hspells
    exact ⟨String.ofList text, by rwa [String.toList_ofList]⟩
  · rw [decode_node, hsplit, hfront.unescape_append, htail.unescape_eq]
    rfl

/-- A text with an escape by number, one by a letter and one of the quote is read up to the quote
that is not escaped. -/
theorem read_spelling_escaped :
    (double.node ⟨"m", 1, 1⟩ ['\\', 'x', '4', 'a', '\\', 'n', '\\', '"']).decode =
      .ok (double.value ⟨"m", 1, 1⟩ "J\n\"") := by
  have hdigits : Spelling.IsHexNumeral ['4', 'a'] 'J'.toNat :=
    Spelling.isHexNumeral_iff.mpr (by decide)
  have hnumber : double.SpellsChar 'J' ['\\', 'x', '4', 'a'] := .number (by decide) rfl hdigits
  have hspells : double.Spells "J\n\"".toList ['\\', 'x', '4', 'a', '\\', 'n', '\\', '"'] :=
    .cons hnumber (.cons (.short (by decide)) (.cons (.quote rfl (.inl rfl)) .nil))
  have hread := read_spelling double (.start "m" "\"\\x4a\\n\\\"\";".toList)
    ['\\', 'x', '4', 'a', '\\', 'n', '\\', '"'] [';'] rfl
  exact (hread.1 "J\n\"" hspells).2

end Delimiter

end RecordScript
