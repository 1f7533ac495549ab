import RecordScript.Text.Position

/-!
# Cursors

A place in the text that is being read: what is left of the text, and the line and column that have
been reached. White space and comments between tokens are passed over here.
-/

namespace RecordScript

/-- A place in the text of a named source. -/
structure Cursor where
  source : String
  rest : List Char
  offset : Nat := 0
  line : Nat := 1
  column : Nat := 1

/-- Whether a character separates tokens. -/
def isLayoutChar (c : Char) : Bool := c = ' ' || c = '\t' || c = '\r' || c = '\n'

/-- Splits white space and comments off the front of a text; `comment` says whether a comment is
open. A comment runs from a number sign to the end of its line. -/
def splitLayout : Bool → List Char → List Char × List Char
  | _, [] => ([], [])
  | true, c :: cs =>
    let (layout, rest) := splitLayout (c ≠ '\n' && c ≠ '\r') cs
    (c :: layout, rest)
  | false, c :: cs =>
    if isLayoutChar c || c = '#' then
      let (layout, rest) := splitLayout (c = '#') cs
      (c :: layout, rest)
    else ([], c :: cs)

namespace Cursor

/-- The start of a text. -/
def start (source : String) (text : List Char) : Cursor := { source, rest := text }

/-- The position of the cursor. -/
def position (c : Cursor) : Position := ⟨c.source, c.line, c.column⟩

/-- The cursor after one more character, which is taken off the text elsewhere. -/
def count (c : Cursor) (char : Char) : Cursor :=
  if char = '\n' then { c with offset := c.offset + 1, line := c.line + 1, column := 1 }
  else { c with offset := c.offset + 1, column := c.column + 1 }

/-- The cursor after the characters `taken`, with `rest` left of the text. -/
def after (c : Cursor) (taken rest : List Char) : Cursor :=
  { taken.foldl count c with rest }

/-- The cursor after the white space and the comments that come next. -/
def skipLayout (c : Cursor) : Cursor :=
  let (layout, rest) := splitLayout false c.rest
  c.after layout rest

end Cursor

end RecordScript
