/-!
# Places in a program text

A position names the source it belongs to and counts lines and columns from one. Columns count
characters, and every line feed starts a new line.
-/

namespace RecordScript

/-- A place in the text of a named source, with its line and column counted from one. -/
structure Position where
  source : String
  line : Nat
  column : Nat
deriving DecidableEq, Repr, Inhabited

namespace Position

/-- The position as messages show it. -/
def render (p : Position) : String := s!"{p.source}:{p.line}:{p.column}"

end Position

end RecordScript
