import RecordScript.Grammar.Token
import RecordScript.Syntax.Problem

/-!
# Parse trees

What reading a text yields first: a tree with a node for every construct of the grammar, keywords
and operators included. Signs that only separate leave no node, and neither do white space and
comments. Nothing is known of a tree but its shape; programs are built from trees in a second step.
-/

namespace RecordScript

/-- A construct that has been read: where it starts and the nodes of its parts. Only tokens have
their characters. A token has no parts unless it is a literal or a name between two characters: then
its inside is its only part. -/
structure ParseTree where
  construct : Construct
  position : Position
  text : List Char := []
  parts : List ParseTree := []

/-- What a reply amounts to where nothing else is read: what was expected furthest in the text if
reading failed. -/
def Reply.result {α : Type} (source : String) (reply : Reply α) : Except SyntaxError α :=
  match reply.outcome, reply.frontier with
  | some (a, _), _ => .ok a
  | none, some frontier => .error ⟨frontier.position, .expected frontier.constructs⟩
  | none, none => .error ⟨⟨source, 1, 1⟩, .expected []⟩

/-- A reader of nodes that stand side by side. -/
abbrev TreeParser := Parser (List ParseTree)

namespace TreeGrammar

open RecordScript.Parser

/-- Reads one thing after the other. -/
def sequence : List TreeParser → TreeParser
  | [] => pure []
  | p :: ps => do
    let left ← p
    let right ← sequence ps
    pure (left ++ right)

/-- Reads a sequence that may be missing. -/
def maybe (ps : List TreeParser) : TreeParser := (·.getD []) <$> optional (sequence ps)

/-- Reads a sequence as often as it comes. -/
def repeated (limit : Nat) (ps : List TreeParser) : TreeParser :=
  List.flatten <$> many limit (sequence ps)

/-- Reads a sign that leaves no node. -/
def mark (s : String) : TreeParser := do
  let _ ← token (Token.sign s)
  pure []

/-- Reads a token. -/
def leaf (construct : Construct) (scan : Scanner) : TreeParser :=
  named construct do
    let position ← here
    let text ← token scan
    pure [{ construct, position, text }]

/-- Reads a token whose inside is a node of its own. -/
def enclosed (construct : Construct) (inside : List Char → Construct) (scan : Scanner) :
    TreeParser :=
  named construct do
    let position ← here
    let text ← token scan
    let chars : ParseTree :=
      { construct := inside text
        position := { position with column := position.column + 1 }
        text := Token.inner text }
    pure [{ construct, position, text, parts := [chars] }]

/-- Reads a construct that consists of a sequence. -/
def around (construct : Construct) (ps : List TreeParser) : TreeParser :=
  named construct do
    let position ← here
    let parts ← sequence ps
    pure [{ construct, position, parts }]

end TreeGrammar

end RecordScript
