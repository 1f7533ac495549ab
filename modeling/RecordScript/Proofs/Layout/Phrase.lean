import RecordScript.Proofs.Grammar.Lookahead

/-!
# Programs as tokens

The grammar of programs over tokens, where operands nest to the left and every level of operators is
a kind of phrase. Some signs say nothing about the program: a semicolon behind a statement, a bar in
front of an expression, and parentheses around one. In a phrase these signs may be marked as put in,
wherever the phrase without them has none; parentheses that are put in stand around any expression.

A text is read along the tokens of a phrase, each with the white space and the comments behind it.
-/

namespace RecordScript

/-- A token: the scanner that finds it, its characters, and whether it is put in. -/
structure Lexeme where
  scan : Parser.Scanner
  chars : List Char
  inserted : Bool
  robust : scan.IsRobust

namespace Lexeme

/-- The given sign. -/
def sign (s : String) (h : Token.IsSign s ∧ Token.StartsVisibly s) (inserted : Bool) : Lexeme :=
  ⟨Token.sign s, s.toList, inserted, Token.isRobust_sign h.1 h.2⟩

/-- One of some signs as an operator. -/
def operator (signs : List String) (h : ∀ s ∈ signs, Token.IsOperatorSign s) (taken : List Char) :
    Lexeme :=
  ⟨Token.anySign signs, taken, false, Token.isRobust_anySign h⟩

/-- The given keyword. -/
def keyword (k : String) : Lexeme := ⟨Token.keyword k, k.toList, false, Token.isRobust_keyword k⟩

/-- A name without braces. -/
def name (taken : List Char) : Lexeme := ⟨Token.name, taken, false, Token.isRobust_name⟩

/-- A name in braces. -/
def bracedName (taken : List Char) : Lexeme :=
  ⟨Token.bracedName, taken, false, Token.isRobust_bracedName⟩

/-- The sign of an assignment. -/
def assignSign : Lexeme := ⟨Token.assignSign, ['='], false, Token.isRobust_assignSign⟩

/-- A comma. -/
def comma : Lexeme := sign "," (by decide) false

/-- An opening parenthesis. -/
def opening (inserted : Bool) : Lexeme := sign "(" (by decide) inserted

/-- A closing parenthesis. -/
def closing (inserted : Bool) : Lexeme := sign ")" (by decide) inserted

/-- A bar. -/
def bar (inserted : Bool) : Lexeme := sign "|" (by decide) inserted

/-- A semicolon. -/
def semicolon (inserted : Bool) : Lexeme := sign ";" (by decide) inserted

end Lexeme

/-! ### Reading along tokens -/

/-- The tokens can be read at the front of a text, one after the other, with the given rest. -/
def Reads : List Lexeme → List Char → List Char → Prop
  | [], cs, rest => rest = cs
  | t :: ts, cs, rest => ∃ mid, Reading.token t.scan cs t.chars mid ∧ Reads ts mid rest

theorem reads_cons {t : Lexeme} {ts : List Lexeme} {cs rest : List Char} :
    Reads (t :: ts) cs rest ↔ ∃ mid, Reading.token t.scan cs t.chars mid ∧ Reads ts mid rest :=
  Iff.rfl

theorem reads_singleton {t : Lexeme} {cs rest : List Char} :
    Reads [t] cs rest ↔ Reading.token t.scan cs t.chars rest := by
  constructor
  · rintro ⟨mid, ht, rfl⟩
    exact ht
  · exact fun ht => ⟨rest, ht, rfl⟩

theorem reads_append {ts us : List Lexeme} {cs rest : List Char} :
    Reads (ts ++ us) cs rest ↔ ∃ mid, Reads ts cs mid ∧ Reads us mid rest := by
  induction ts generalizing cs with
  | nil => exact ⟨fun h => ⟨cs, rfl, h⟩, fun ⟨_, hmid, h⟩ => hmid ▸ h⟩
  | cons t ts ih =>
    simp only [List.cons_append, reads_cons, ih]
    constructor
    · rintro ⟨mid, ht, mid', hts, hus⟩
      exact ⟨mid', ⟨mid, ht, hts⟩, hus⟩
    · rintro ⟨mid', ⟨mid, ht, hts⟩, hus⟩
      exact ⟨mid, ht, mid', hts, hus⟩

/-! ### Expressions -/

/-- The kinds of literals. -/
inductive LiteralKind where
  | boolean
  | number
  | quoted
  | regex

namespace LiteralKind

/-- The token of a literal. -/
def lexeme (taken : List Char) : LiteralKind → Lexeme
  | boolean => ⟨Token.boolean, taken, false, Token.isRobust_boolean⟩
  | number => ⟨Token.number, taken, false, Token.isRobust_number⟩
  | quoted => ⟨Token.quoted, taken, false, Token.isRobust_quoted⟩
  | regex => ⟨Token.regex, taken, false, Token.isRobust_regex⟩

/-- The spelling that a token of a literal stands for. -/
def spelling (taken : List Char) : LiteralKind → LiteralSpelling
  | boolean => .boolean (taken = "true".toList)
  | number => .number taken
  | quoted => .quoted (Token.inner taken)
  | regex => .regex (Token.inner taken)

end LiteralKind

/-- The token of a field name. -/
inductive FieldToken : Lexeme → NameSpelling → Prop
  | bare (taken : List Char) : FieldToken (.name taken) (.bare taken)
  | braced (taken : List Char) : FieldToken (.bracedName taken) (.braced (Token.inner taken))

/-- The kinds of expressions, from the tightest to the loosest. Only a complete expression, which
stands between other signs than operators, may start with a bar. -/
inductive Level where
  | primary
  | signed
  | product
  | sum
  | comparison
  | negation
  | conjunction
  | disjunction
  | complete

/-- The next looser kind. -/
def Level.next : Level → Level
  | primary => signed
  | signed => product
  | product => sum
  | sum => comparison
  | comparison => negation
  | negation => conjunction
  | conjunction => disjunction
  | disjunction | complete => complete

/-- Tokens between parentheses. -/
def between (inserted : Bool) (ts : List Lexeme) : List Lexeme :=
  .opening inserted :: (ts ++ [.closing inserted])

/-- The tokens of things with commas between them. -/
def separatedTokens : List (List Lexeme) → List Lexeme
  | [] => []
  | ts :: tss => ts ++ tss.flatMap fun us => .comma :: us

/-- The tokens of arguments. -/
def argumentTokens (tss : List (List Lexeme)) : List Lexeme := between false (separatedTokens tss)

/-- Tokens together with the tree that they stand for. -/
abbrev Part (α : Type) : Type := List Lexeme × α

open Language (mulSigns addSigns compareTree)

/-- The tokens of an expression of some kind. -/
inductive Phrase : Level → List Lexeme → SpelledExpr → Prop
  | literal (kind : LiteralKind) (taken : List Char) :
      Phrase .primary [kind.lexeme taken] (.literal default (kind.spelling taken))
  | field {t : Lexeme} {name : NameSpelling} (token : FieldToken t name) :
      Phrase .primary [t] (.field default name)
  | call (function : List Char) (args : List (Part SpelledExpr))
      (each : ∀ arg ∈ args, Phrase .complete arg.1 arg.2) :
      Phrase .primary (.name function :: argumentTokens (args.map Prod.fst))
        (.call default (String.ofList function) (args.map Prod.snd))
  | parenthesized {ts : List Lexeme} {e : SpelledExpr} (inside : Phrase .complete ts e) :
      Phrase .primary (between false ts) e
  | signed (op : List Char) {ts : List Lexeme} {e : SpelledExpr} (operand : Phrase .signed ts e) :
      Phrase .signed (.operator ["+", "-"] (by decide) op :: ts)
        (.unary default (if op = ['-'] then .minus else .plus) e)
  | product {ts us : List Lexeme} {l r : SpelledExpr} (op : List Char)
      (left : Phrase .product ts l) (right : Phrase .signed us r) :
      Phrase .product (ts ++ .operator mulSigns (by decide) op :: us)
        (.binary default (Grammar.binaryOp op) l r)
  | sum {ts us : List Lexeme} {l r : SpelledExpr} (op : List Char)
      (left : Phrase .sum ts l) (right : Phrase .product us r) :
      Phrase .sum (ts ++ .operator addSigns (by decide) op :: us)
        (.binary default (Grammar.binaryOp op) l r)
  | comparison {ts us : List Lexeme} {l r : SpelledExpr} (op : List Char)
      (left : Phrase .sum ts l) (right : Phrase .sum us r) :
      Phrase .comparison (ts ++ .operator Token.compareSigns (by decide) op :: us)
        (compareTree (Grammar.compareOp? op) l r)
  | negation (op : List Char) {ts : List Lexeme} {e : SpelledExpr}
      (operand : Phrase .negation ts e) :
      Phrase .negation (.operator ["!"] (by decide) op :: ts)
        (.unary default .not (SpelledExpr.asCondition e))
  | conjunction {ts us : List Lexeme} {l r : SpelledExpr} (left : Phrase .conjunction ts l)
      (right : Phrase .negation us r) :
      Phrase .conjunction (ts ++ .sign "&" (by decide) false :: us)
        (.logical default .and (SpelledExpr.asCondition l) (SpelledExpr.asCondition r))
  | disjunction {ts us : List Lexeme} {l r : SpelledExpr} (left : Phrase .disjunction ts l)
      (right : Phrase .conjunction us r) :
      Phrase .disjunction (ts ++ .bar false :: us)
        (.logical default .or (SpelledExpr.asCondition l) (SpelledExpr.asCondition r))
  /-- A bar in front of an expression, which may be put in. -/
  | bar (inserted : Bool) {ts : List Lexeme} {e : SpelledExpr} (behind : Phrase .disjunction ts e) :
      Phrase .complete (.bar inserted :: ts) e
  | looser {level : Level} {ts : List Lexeme} {e : SpelledExpr} (tighter : Phrase level ts e) :
      Phrase level.next ts e
  /-- Parentheses that are put in around an expression of any kind. -/
  | inserted {level : Level} {ts : List Lexeme} {e : SpelledExpr} (inside : Phrase level ts e) :
      Phrase level (between true ts) e

/-! ### Statements -/

/-- The semicolon behind a statement, if there is one; it may be put in. -/
def semicolonTokens (semicolon : Option Bool) : List Lexeme :=
  (semicolon.map Lexeme.semicolon).toList

/-- The sign of a directive. -/
def directiveSign (inline : Bool) : String := if inline then "@@" else "@"

/-- The token in front of the name of a directive. -/
def Lexeme.directiveSign (inline : Bool) : Lexeme :=
  .sign (RecordScript.directiveSign inline) (by cases inline <;> decide) false

/-- The tokens of a directive. -/
inductive DirectivePhrase (inline : Bool) : List Lexeme → SpelledDirective → Prop
  | bare (name : List Char) :
      DirectivePhrase inline
        [.directiveSign inline, .name name]
        { name := String.ofList name, args := [], inline, position := default }
  | withArguments (name : List Char) (args : List (Part SpelledExpr))
      (each : ∀ arg ∈ args, Phrase .complete arg.1 arg.2) :
      DirectivePhrase inline
        (.directiveSign inline :: .name name :: argumentTokens (args.map Prod.fst))
        { name := String.ofList name, args := args.map Prod.snd, inline, position := default }

/-- The condition and the body of a branch. -/
structure BranchParts where
  condition : Part SpelledExpr
  body : List (Part SpelledStatement)

namespace BranchParts

/-- The tokens of a branch behind a keyword. -/
def tokens (k : String) (b : BranchParts) : List Lexeme :=
  .keyword k :: (b.condition.1 ++ .keyword "then" :: b.body.flatMap Prod.fst)

/-- The tree of a branch. -/
def tree (b : BranchParts) : SpelledBranch :=
  .mk (SpelledExpr.asCondition b.condition.2) (b.body.map Prod.snd)

end BranchParts

/-- The tokens of what stands for all other cases. -/
def otherwiseTokens : Option (List (Part SpelledStatement)) → List Lexeme
  | none => []
  | some body => .keyword "else" :: body.flatMap Prod.fst

/-- The tokens of a statement and of the semicolon behind it. -/
inductive StatementPhrase : List Lexeme → SpelledStatement → Prop
  | rule (first : BranchParts) (others : List BranchParts)
      (otherwise : Option (List (Part SpelledStatement)))
      (conditions : ∀ b ∈ first :: others, Phrase .complete b.condition.1 b.condition.2)
      (bodies : ∀ b ∈ first :: others, ∀ s ∈ b.body, StatementPhrase s.1 s.2)
      (otherBody : ∀ body ∈ otherwise, ∀ s ∈ body, StatementPhrase s.1 s.2)
      (semicolon : Option Bool) :
      StatementPhrase
        (first.tokens "if" ++ (others.flatMap (BranchParts.tokens "elif") ++
          (otherwiseTokens otherwise ++ .keyword "fi" :: semicolonTokens semicolon)))
        (.rule (first.tree :: others.map BranchParts.tree) (otherwise.map (List.map Prod.snd)))
  | directive {inline : Bool} {ts : List Lexeme} {d : SpelledDirective}
      (tokens : DirectivePhrase inline ts d) (semicolon : Option Bool) :
      StatementPhrase (ts ++ semicolonTokens semicolon) (.directive d)
  | assign {t : Lexeme} {name : NameSpelling} {ts : List Lexeme} {e : SpelledExpr}
      (token : FieldToken t name) (value : Phrase .complete ts e) (semicolon : Option Bool) :
      StatementPhrase (t :: .assignSign :: (ts ++ semicolonTokens semicolon))
        (.assign default name e)
  | call (function : List Char) (args : List (Part SpelledExpr))
      (each : ∀ arg ∈ args, Phrase .complete arg.1 arg.2) (semicolon : Option Bool) :
      StatementPhrase
        (.name function :: (argumentTokens (args.map Prod.fst) ++ semicolonTokens semicolon))
        (.call default (String.ofList function) (args.map Prod.snd))

/-- The tokens of a directive of the header and of the semicolon behind it. -/
inductive HeaderPhrase : List Lexeme → SpelledDirective → Prop
  | directive {ts : List Lexeme} {d : SpelledDirective} (tokens : DirectivePhrase false ts d)
      (semicolon : Option Bool) : HeaderPhrase (ts ++ semicolonTokens semicolon) d

/-- The tokens of a program. -/
inductive ProgramPhrase : List Lexeme → SpelledFile → Prop
  | program (header : List (Part SpelledDirective)) (statements : List (Part SpelledStatement))
      (directives : ∀ d ∈ header, HeaderPhrase d.1 d.2)
      (each : ∀ s ∈ statements, StatementPhrase s.1 s.2)
      (isBehindHeader : ∀ d, (statements.map Prod.snd).head? = some (.directive d) →
        d.inline = true) :
      ProgramPhrase (header.flatMap Prod.fst ++ statements.flatMap Prod.fst)
        { header := header.map Prod.snd, statements := statements.map Prod.snd }

end RecordScript
