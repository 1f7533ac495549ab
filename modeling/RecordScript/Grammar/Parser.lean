import RecordScript.Grammar.Construct
import RecordScript.Grammar.Cursor

/-!
# Parsers

A parser reads a construct at a cursor. Choices are ordered: the second alternative is tried only
where the first fails, and nothing is tried again. Besides its outcome every parser reports the
frontier it has reached: the furthest place at which a construct could not be read, with the
constructs that could have stood there. Frontiers are joined along the way and never change an
outcome.
-/

namespace RecordScript

/-- The furthest place at which constructs could not be read. -/
structure Frontier where
  offset : Nat
  position : Position
  constructs : List Construct

namespace Frontier

/-- The further of two frontiers; at the same place they are put together. -/
def join : Option Frontier → Option Frontier → Option Frontier
  | none, b => b
  | a, none => a
  | some a, some b =>
    if a.offset < b.offset then some b
    else if b.offset < a.offset then some a
    else some { a with constructs := a.constructs ++ b.constructs }

/-- The frontier of a construct that could not be read at the cursor, given the frontier of its
parts. The construct stands for its parts, unless they reached further or exactly one of them was
expected. -/
def ofFailure (construct : Construct) (c : Cursor) : Option Frontier → Option Frontier
  | none => some ⟨c.offset, c.position, [construct]⟩
  | some parts =>
    if c.offset < parts.offset ∨ parts.constructs.length = 1 then some parts
    else some ⟨c.offset, c.position, [construct]⟩

end Frontier

/-- What a parser answers: what it has read and the cursor behind it, if anything, and its frontier.
-/
structure Reply (α : Type) where
  outcome : Option (α × Cursor)
  frontier : Option Frontier

/-- A reader of constructs of type `α`. -/
def Parser (α : Type) : Type := Cursor → Reply α

namespace Parser

variable {α β : Type}

/-- Reads nothing. -/
protected def pure (a : α) : Parser α := fun c => ⟨some (a, c), none⟩

/-- Reads nothing and fails. -/
def fail : Parser α := fun _ => ⟨none, none⟩

/-- Reads one thing, then what it asks for. -/
protected def bind (p : Parser α) (f : α → Parser β) : Parser β := fun c =>
  match p c with
  | ⟨none, frontier⟩ => ⟨none, frontier⟩
  | ⟨some (a, c), frontier⟩ =>
    let reply := f a c
    ⟨reply.outcome, Frontier.join frontier reply.frontier⟩

instance : Monad Parser where
  pure := Parser.pure
  bind := Parser.bind

/-- Reads the first alternative, or else the second. -/
def orElse (p : Parser α) (q : Unit → Parser α) : Parser α := fun c =>
  match p c with
  | ⟨some result, frontier⟩ => ⟨some result, frontier⟩
  | ⟨none, frontier⟩ =>
    let reply := q () c
    ⟨reply.outcome, Frontier.join frontier reply.frontier⟩

instance : OrElse (Parser α) where
  orElse := Parser.orElse

/-- The position at which the parser stands. -/
def here : Parser Position := fun c => ⟨some (c.position, c), none⟩

/-- Reads something that may be missing. -/
def optional (p : Parser α) : Parser (Option α) := (some <$> p) <|> pure none

/-- Reads a thing as often as it comes, at most `limit` times. -/
def many : Nat → Parser α → Parser (List α)
  | 0, _ => pure []
  | limit + 1, p => (do
      let a ← p
      let as ← many limit p
      pure (a :: as)) <|> pure []

/-- Reads a construct that is named in messages. -/
def named (construct : Construct) (p : Parser α) : Parser α := fun c =>
  match p c with
  | ⟨some result, frontier⟩ => ⟨some result, frontier⟩
  | ⟨none, frontier⟩ => ⟨none, Frontier.ofFailure construct c frontier⟩

/-- Splits the characters of a token off the front of a text. -/
abbrev Scanner := List Char → Option (List Char × List Char)

/-- Reads a token and passes over the white space and the comments behind it. -/
def token (scan : Scanner) : Parser (List Char) := fun c =>
  match scan c.rest with
  | some (taken, rest) => ⟨some (taken, (c.after taken rest).skipLayout), none⟩
  | none => ⟨none, none⟩

/-- Passes over white space and comments. -/
def layout : Parser Unit := fun c => ⟨some ((), c.skipLayout), none⟩

/-- Succeeds only at the end of the text. -/
def atEnd : Parser Unit := fun c =>
  if c.rest.isEmpty then ⟨some ((), c), none⟩ else ⟨none, none⟩

end Parser

end RecordScript
