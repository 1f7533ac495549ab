/-!
# Paths

The paths of program sources and of files. A path keeps the text it is spelled with; two paths are
the same if their parts are, so that doubled and trailing slashes do not count. Normalizing a path
works on the path alone and asks no file system.
-/

namespace RecordScript

/-- A path, as it is spelled. -/
structure SourcePath where
  text : String
deriving DecidableEq, Repr, Inhabited

/-- A part of a path. -/
inductive PathPart where
  /-- The root, at the front of an absolute path. -/
  | root
  /-- A dot at the front of a relative path. -/
  | here
  /-- Two dots. -/
  | up
  | name (name : String)
deriving DecidableEq, Repr

namespace PathPart

/-- The part that stands between two slashes, unless nothing or a single dot stands there. -/
def ofPiece? : List Char → Option PathPart
  | [] => none
  | ['.'] => none
  | ['.', '.'] => some up
  | cs => some (name (String.ofList cs))

/-- The part as a path. -/
def spelled : PathPart → String
  | root => "/"
  | here => "."
  | up => ".."
  | name s => s

end PathPart

namespace SourcePath

/-- The pieces of a text between slashes; `piece` is what has been read of the first one, in reverse
order. -/
def piecesAfter (piece : List Char) : List Char → List (List Char)
  | [] => [piece.reverse]
  | c :: cs => if c = '/' then piece.reverse :: piecesAfter [] cs else piecesAfter (c :: piece) cs

/-- The pieces of a text between slashes. -/
def pieces (cs : List Char) : List (List Char) := piecesAfter [] cs

/-- Whether a path starts at the root. -/
def isAbsolute (p : SourcePath) : Bool := p.text.toList.head? = some '/'

/-- Splits a path behind its front, which is the root of an absolute path or a leading dot of a
relative one. -/
def splitFront : List Char → List PathPart × List Char
  | '/' :: cs => ([.root], cs)
  | ['.'] => ([.here], [])
  | '.' :: '/' :: cs => ([.here], '/' :: cs)
  | cs => ([], cs)

/-- The parts of a path. -/
def parts (p : SourcePath) : List PathPart :=
  let (front, rest) := splitFront p.text.toList
  front ++ (pieces rest).filterMap PathPart.ofPiece?

/-- Whether two paths have the same parts. -/
def same (p q : SourcePath) : Bool := p.parts = q.parts

/-- The path `q`, read from the directory `p`. -/
def join (p q : SourcePath) : SourcePath :=
  if q.isAbsolute then q
  else if p.text = "" ∨ p.text.toList.getLast? = some '/' then ⟨p.text ++ q.text⟩
  else ⟨p.text ++ "/" ++ q.text⟩

/-- A text in reverse order without the slashes and single dots at its end. -/
def trimBack : List Char → List Char
  | '/' :: cs => trimBack cs
  | '.' :: '/' :: cs => trimBack cs
  | ['.'] => []
  | cs => cs

/-- The path without its last part; the root and the empty path have none. -/
def parent? (p : SourcePath) : Option SourcePath :=
  let (front, rest) := splitFront p.text.toList
  match trimBack rest.reverse with
  | [] => if front = [.here] then some ⟨""⟩ else none
  | back =>
    let kept := trimBack ((back.dropWhile (· ≠ '/')).drop 1)
    some ⟨String.join (front.map PathPart.spelled) ++ String.ofList kept.reverse⟩

/-- One step of normalizing: the normalized path `p` with a part behind it. Two dots remove the last
part, whatever it is, and stay only where there is none. -/
def normalizePart (p : SourcePath) : PathPart → SourcePath
  | .here => p
  | .up =>
    match p.parent? with
    | some q => q
    | none => p.join ⟨PathPart.up.spelled⟩
  | part => p.join ⟨part.spelled⟩

/-- The path without single dots, and with double dots resolved by removing the part before them. -/
def normalize (p : SourcePath) : SourcePath := p.parts.foldl normalizePart ⟨""⟩

end SourcePath

end RecordScript
