import RecordScript.Grammar.Construct
import RecordScript.Text.Position

/-!
# Syntax errors

Why a text is no program: something else was expected at a place, or a literal cannot be decoded.
-/

namespace RecordScript

/-- Why a text is no program. -/
inductive SyntaxProblem where
  | expected (constructs : List Construct)
  | danglingBackslash
  | unknownEscape (c : Char)
  | malformedEscape (digits : List Char) (width : Nat)
  | noSuchCharacter (digits : List Char)
  | invalidNumber (report : String)
  /-- A pattern does not compile where it is read. -/
  | invalidRegex (report : String)
  /-- A pattern that was read does not compile without regard to case. -/
  | uncompiledRegex (report : String)
deriving DecidableEq, Repr

namespace SyntaxProblem

/-- The wording of a problem. -/
def message : SyntaxProblem → String
  | expected constructs => Construct.expectation constructs
  | danglingBackslash => "dangling backslash"
  | unknownEscape c => s!"invalid escape sequence `\\{c}`"
  | malformedEscape digits width =>
    s!"malformed escape `{String.ofList digits}`: expected {width} hex digits"
  | noSuchCharacter digits => s!"`{String.ofList digits}` is not a valid character"
  | invalidNumber report => s!"invalid number: {report}"
  | invalidRegex report => s!"invalid regex: {report}"
  | uncompiledRegex report => report

end SyntaxProblem

/-- A problem at a place of a program text. -/
structure SyntaxError where
  position : Position
  problem : SyntaxProblem
deriving DecidableEq, Repr

end RecordScript
