import RecordScript.Proofs.Spelled.Statement
import RecordScript.Proofs.Grammar.Reading
import RecordScript.Proofs.Syntax.Unplaced

/-!
# The language as readings

The grammar of programs without cursors, positions, names for messages, an order of choices or
bounds on repetitions. What a reading gives is a tree whose positions are all the default one. Nesting is
counted by the depth of the readings; a text is an expression if it is one at some depth.

Every construct but a sequence takes something, and every construct is read the same when further
lines follow the text.
-/

namespace RecordScript

namespace Language

open Reading

/-! ### Expressions -/

/-- The given sign. -/
def sign (s : String) : Reading (List Char) := token (Token.sign s)

/-- A name without braces. -/
def bareName : Reading (List Char) := token Token.name

/-- The name of a field. -/
def fieldName : Reading NameSpelling :=
  (.bare <$> bareName) <|> ((fun taken => .braced (Token.inner taken)) <$> token Token.bracedName)

/-- A literal whose token is turned into a spelling. -/
def literal (scan : Parser.Scanner) (spelling : List Char → LiteralSpelling) :
    Reading SpelledExpr :=
  (fun taken => .literal default (spelling taken)) <$> token scan

/-- One of the literals. -/
def anyLiteral : Reading SpelledExpr :=
  literal Token.boolean (fun taken => .boolean (taken = "true".toList))
    <|> literal Token.number .number
    <|> literal Token.quoted (fun taken => .quoted (Token.inner taken))
    <|> literal Token.regex (fun taken => .regex (Token.inner taken))

/-- Things separated by commas, at least one. -/
def separated {α : Type} (R : Reading α) : Reading (List α) := do
  let first ← R
  let others ← star (do let _ ← sign ","; R)
  return first :: others

/-- The arguments of a call in parentheses. -/
def arguments (E : Reading SpelledExpr) : Reading (List SpelledExpr) := do
  let _ ← sign "("
  let args ← optional (separated E)
  let _ ← sign ")"
  return args.getD []

/-- The call of a function. -/
def call (E : Reading SpelledExpr) : Reading (String × List SpelledExpr) := do
  let function ← bareName
  let args ← arguments E
  return (String.ofList function, args)

/-- A field name where its value is meant. -/
def fieldRead : Reading SpelledExpr := .field default <$> fieldName

/-- An expression in parentheses. -/
def parenthesized (E : Reading SpelledExpr) : Reading SpelledExpr := do
  let _ ← sign "("
  let e ← E
  let _ ← sign ")"
  return e

/-- A literal, a call, a field or an expression in parentheses. -/
def primary (E : Reading SpelledExpr) : Reading SpelledExpr :=
  anyLiteral
    <|> ((fun (function, args) => .call default function args) <$> call E)
    <|> fieldRead
    <|> parenthesized E

/-- One of the given signs as an operator. -/
def operator {α : Type} (signs : List String) (op : List Char → α) : Reading α :=
  op <$> token (Token.anySign signs)

/-- A primary expression with the signs before it. -/
def unary (E : Reading SpelledExpr) : Reading SpelledExpr := do
  let ops ← star (operator ["+", "-"] fun taken => if taken = ['-'] then UnaryOp.minus else .plus)
  let operand ← primary E
  return Grammar.applyUnary (ops.map (default, ·)) operand

/-- Operands between operators of one level, which are grouped from the left. -/
def binaryLevel (signs : List String) (operand : Reading SpelledExpr) : Reading SpelledExpr := do
  let first ← operand
  let others ← star (do
    let op ← operator signs Grammar.binaryOp
    let right ← operand
    return (op, right))
  return others.foldl (fun left (op, right) => .binary default op left right) first

/-- The signs of products. -/
def mulSigns : List String := ["*", "/", "%"]

/-- The signs of sums. -/
def addSigns : List String := ["+", "-", "."]

/-- Products of signed expressions. -/
def product (E : Reading SpelledExpr) : Reading SpelledExpr := binaryLevel mulSigns (unary E)

/-- Sums of products. -/
def sum (E : Reading SpelledExpr) : Reading SpelledExpr := binaryLevel addSigns (product E)

/-- What a comparison makes of its sides; without an operator it is a match. -/
def compareTree : Option CompareOp → SpelledExpr → SpelledExpr → SpelledExpr
  | some op, left, right => .comparison default op left right
  | none, left, right => .pattern default left right

/-- A sum, or two sums with a comparison between them. -/
def comparison (E : Reading SpelledExpr) : Reading SpelledExpr := do
  let left ← sum E
  let other ← optional (do
    let taken ← token (Token.anySign Token.compareSigns)
    let right ← sum E
    return (Grammar.compareOp? taken, right))
  match other with
  | none => return left
  | some (op, right) => return compareTree op left right

/-- A comparison with the negations before it. -/
def negation (E : Reading SpelledExpr) : Reading SpelledExpr := do
  let nots ← star (operator ["!"] fun _ => ())
  let operand ← comparison E
  return Grammar.applyNot (nots.map fun _ => default) operand

/-- Negations between the signs of conjunction. -/
def conjunction (E : Reading SpelledExpr) : Reading SpelledExpr := do
  let first ← negation E
  let others ← star (do let _ ← sign "&"; negation E)
  return Grammar.joinLogical .and default first others

/-- Conjunctions between bars; a bar may also stand before the first. -/
def alternatives (E : Reading SpelledExpr) : Reading SpelledExpr := do
  let _ ← optional (sign "|")
  let first ← conjunction E
  let others ← star (do let _ ← sign "|"; conjunction E)
  return Grammar.joinLogical .or default first others

/-- An expression that is nested at most `depth` times. -/
def expression : Nat → Reading SpelledExpr
  | 0 => nothing
  | depth + 1 => alternatives (expression depth)

/-! ### Statements -/

/-- The given keyword. -/
def keyword (name : String) : Reading Unit := do
  let _ ← token (Token.keyword name)
  return ()

/-- A directive behind the given sign. -/
def directive (E : Reading SpelledExpr) (mark : String) (inline : Bool) :
    Reading SpelledDirective := do
  let _ ← sign mark
  let name ← bareName
  let args ← optional (arguments E)
  return { name := String.ofList name, args := args.getD [], inline, position := default }

/-- An assignment. -/
def assignment (E : Reading SpelledExpr) : Reading SpelledStatement := do
  let field ← fieldName
  let _ ← token Token.assignSign
  let value ← E
  return .assign default field value

/-- A branch with a condition between two keywords. -/
def branch (E : Reading SpelledExpr) (name : String) (block : Reading (List SpelledStatement)) :
    Reading SpelledBranch := do
  keyword name
  let condition ← E
  keyword "then"
  let body ← block
  return .mk (SpelledExpr.asCondition condition) body

/-- A rule. -/
def rule (E : Reading SpelledExpr) (block : Reading (List SpelledStatement)) :
    Reading SpelledStatement := do
  let first ← branch E "if" block
  let others ← star (branch E "elif" block)
  let otherwise ← optional (do keyword "else"; block)
  keyword "fi"
  return .rule (first :: others) otherwise

/-- A statement without the semicolon behind it. -/
def bareStatement (E : Reading SpelledExpr) (block : Reading (List SpelledStatement)) :
    Reading SpelledStatement :=
  rule E block
    <|> (.directive <$> directive E "@@" true)
    <|> (.directive <$> directive E "@" false)
    <|> assignment E
    <|> ((fun (function, args) => .call default function args) <$> call E)

/-- A statement over the blocks inside it, and the semicolon behind it. -/
def statementOver (E : Reading SpelledExpr) (block : Reading (List SpelledStatement)) :
    Reading SpelledStatement := do
  let statement ← bareStatement E block
  let _ ← optional (sign ";")
  return statement

/-- A statement whose rules are nested at most `depth` times. -/
def statement : Nat → Reading SpelledStatement
  | 0 => nothing
  | depth + 1 => statementOver (expression depth) (star (statement depth))

/-- A directive before the first statement, and the semicolon behind it. -/
def headerItem (depth : Nat) : Reading SpelledDirective := do
  let d ← directive (expression depth) "@" false
  let _ ← optional (sign ";")
  return d

end Language

/-- The statements do not go on with directives that belong to the header. -/
def SourceFileOf.IsBehindHeader {Lit Name : Type} (f : SourceFileOf Lit Name) : Prop :=
  ∀ d, f.statements.head? = some (.directive d) → d.inline = true

namespace Language

open Reading

/-- The text is a program: directives, then statements up to its end. -/
def program (cs : List Char) (file : SpelledFile) : Prop :=
  ∃ mid, star (anyDepth headerItem) cs file.header mid ∧
    star (anyDepth statement) mid file.statements [] ∧ file.IsBehindHeader

/-! ### What constructs take -/

section Takes

variable {E : Reading SpelledExpr}

theorem isToken_compareSigns : (Token.anySign Token.compareSigns).IsToken :=
  Token.isToken_anySign (by decide)

theorem takes_sign {s : String} (hs : Token.IsSign s) : Takes 1 (sign s) :=
  takes_token (Token.isToken_sign hs)

theorem takes_bareName : Takes 1 bareName := takes_token Token.isToken_name

theorem takes_fieldName : Takes 1 fieldName :=
  Takes.orElse (takes_bareName.map _) ((takes_token Token.isToken_bracedName).map _)

theorem takes_anyLiteral : Takes 1 anyLiteral :=
  Takes.orElse ((takes_token Token.isToken_boolean).map _)
    (Takes.orElse ((takes_token Token.isToken_number).map _)
      (Takes.orElse ((takes_token Token.isToken_quoted).map _)
        ((takes_token Token.isToken_regex).map _)))

theorem takes_separated {α : Type} {R : Reading α} (h : Takes 0 R) : Takes 0 (separated R) := by
  have hother : Takes 0 (do let _ ← sign ","; R) :=
    (takes_sign (by decide)).zero.bind_left fun _ => h
  exact h.bind_left fun _ => (takes_star hother).bind_left fun _ => takes_pure _

theorem takes_arguments (hE : Takes 0 E) : Takes 1 (arguments E) :=
  (takes_sign (by decide)).bind_left fun _ =>
    (takes_optional (takes_separated hE)).bind_left fun _ =>
      (takes_sign (by decide)).zero.bind_left fun _ => takes_pure _

theorem takes_call (hE : Takes 0 E) : Takes 1 (call E) :=
  takes_bareName.bind_left fun _ =>
    (takes_arguments hE).zero.bind_left fun _ => takes_pure _

theorem takes_primary (hE : Takes 0 E) : Takes 1 (primary E) := by
  have hparenthesized : Takes 1 (parenthesized E) :=
    (takes_sign (by decide)).bind_left fun _ => hE.bind_left fun _ =>
      (takes_sign (by decide)).zero.bind_left fun _ => takes_pure _
  exact takes_anyLiteral.orElse (((takes_call hE).map _).orElse
    ((takes_fieldName.map _).orElse hparenthesized))

theorem takes_operator {α : Type} {signs : List String} (h : ∀ s ∈ signs, Token.IsSign s)
    (op : List Char → α) : Takes 1 (operator signs op) :=
  (takes_token (Token.isToken_anySign h)).map op

theorem takes_unary (hE : Takes 0 E) : Takes 1 (unary E) :=
  (takes_star ((takes_operator (by decide) _).zero)).bind_right fun _ =>
    (takes_primary hE).bind_left fun _ => takes_pure _

theorem takes_binaryItem {signs : List String} (hsigns : ∀ s ∈ signs, Token.IsSign s)
    {operand : Reading SpelledExpr} (h : Takes 0 operand) :
    Takes 1 (do
      let op ← operator signs Grammar.binaryOp
      let right ← operand
      return (op, right)) :=
  (takes_operator hsigns _).bind_left fun _ => h.bind_left fun _ => takes_pure _

theorem takes_binaryLevel {signs : List String} (hsigns : ∀ s ∈ signs, Token.IsSign s)
    {operand : Reading SpelledExpr} (h : Takes 1 operand) : Takes 1 (binaryLevel signs operand) :=
  h.bind_left fun _ => (takes_star (takes_binaryItem hsigns h.zero).zero).bind_left fun _ =>
    takes_pure _

theorem takes_product (hE : Takes 0 E) : Takes 1 (product E) :=
  takes_binaryLevel (by decide) (takes_unary hE)

theorem takes_sum (hE : Takes 0 E) : Takes 1 (sum E) :=
  takes_binaryLevel (by decide) (takes_product hE)

theorem takes_comparison (hE : Takes 0 E) : Takes 1 (comparison E) := by
  refine (takes_sum hE).bind_left fun _ => Takes.bind_left (takes_optional ?_) fun other => ?_
  · exact (takes_token isToken_compareSigns).zero.bind_left fun _ =>
      (takes_sum hE).zero.bind_left fun _ => takes_pure _
  · rcases other with _ | ⟨taken, right⟩
    · exact takes_pure _
    · exact takes_pure _

theorem takes_negation (hE : Takes 0 E) : Takes 1 (negation E) :=
  (takes_star ((takes_operator (by decide) _).zero)).bind_right fun _ =>
    (takes_comparison hE).bind_left fun _ => takes_pure _

theorem takes_conjunction (hE : Takes 0 E) : Takes 1 (conjunction E) := by
  have hother : Takes 0 (do let _ ← sign "&"; negation E) :=
    (takes_sign (by decide)).zero.bind_left fun _ =>
      (takes_negation hE).zero
  exact (takes_negation hE).bind_left fun _ => (takes_star hother).bind_left fun _ => takes_pure _

theorem takes_bar : Takes 0 (optional (sign "|")) :=
  takes_optional (takes_sign (by decide)).zero

theorem takes_alternatives (hE : Takes 0 E) : Takes 1 (alternatives E) := by
  have hother : Takes 0 (do let _ ← sign "|"; conjunction E) :=
    (takes_sign (by decide)).zero.bind_left fun _ =>
      (takes_conjunction hE).zero
  exact takes_bar.bind_right fun _ =>
    (takes_conjunction hE).bind_left fun _ => (takes_star hother).bind_left fun _ => takes_pure _

theorem takes_expression (depth : Nat) : Takes 1 (expression depth) := by
  induction depth with
  | zero => exact takes_nothing 1
  | succ depth ih => exact takes_alternatives (ih.zero)

theorem takes_keyword (name : String) : Takes 1 (keyword name) :=
  (takes_token (Token.isToken_keyword name)).bind_left fun _ => takes_pure _

theorem takes_directive (hE : Takes 0 E) {mark : String} (hmark : Token.IsSign mark)
    (inline : Bool) : Takes 1 (directive E mark inline) :=
  (takes_sign hmark).bind_left fun _ => (takes_bareName.zero).bind_left fun _ =>
    (takes_optional ((takes_arguments hE).zero)).bind_left fun _ => takes_pure _

theorem takes_branch (hE : Takes 0 E) {block : Reading (List SpelledStatement)}
    (hblock : Takes 0 block) (name : String) : Takes 1 (branch E name block) :=
  (takes_keyword name).bind_left fun _ => hE.bind_left fun _ =>
    (takes_keyword "then").zero.bind_left fun _ =>
      hblock.bind_left fun _ => takes_pure _

theorem takes_rule (hE : Takes 0 E) {block : Reading (List SpelledStatement)}
    (hblock : Takes 0 block) : Takes 1 (rule E block) := by
  have hotherwise : Takes 0 (do keyword "else"; block) :=
    (takes_keyword "else").zero.bind_left fun _ => hblock
  exact (takes_branch hE hblock "if").bind_left fun _ =>
    (takes_star (takes_branch hE hblock "elif").zero).bind_left fun _ =>
      (takes_optional hotherwise).bind_left fun _ =>
        (takes_keyword "fi").zero.bind_left fun _ => takes_pure _

theorem takes_bareStatement (hE : Takes 0 E) {block : Reading (List SpelledStatement)}
    (hblock : Takes 0 block) : Takes 1 (bareStatement E block) := by
  have hassignment : Takes 1 (assignment E) :=
    takes_fieldName.bind_left fun _ =>
      (takes_token Token.isToken_assignSign).zero.bind_left fun _ =>
        hE.bind_left fun _ => takes_pure _
  exact (takes_rule hE hblock).orElse (((takes_directive hE (by decide) true).map _).orElse
    (((takes_directive hE (by decide) false).map _).orElse
      (hassignment.orElse ((takes_call hE).map _))))

theorem takes_semicolon : Takes 0 (optional (sign ";")) :=
  takes_optional ((takes_sign (by decide)).zero)

theorem takes_statement (depth : Nat) : Takes 1 (statement depth) := by
  induction depth with
  | zero => exact takes_nothing 1
  | succ depth ih =>
    exact (takes_bareStatement ((takes_expression depth).zero)
      (takes_star (ih.zero))).bind_left fun _ =>
        takes_semicolon.bind_left fun _ => takes_pure _

theorem takes_headerItem (depth : Nat) : Takes 1 (headerItem depth) :=
  (takes_directive ((takes_expression depth).zero) (by decide) false).bind_left
    fun _ => takes_semicolon.bind_left fun _ => takes_pure _

end Takes

end Language

end RecordScript
