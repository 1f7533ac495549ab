import RecordScript.Syntax.Problem
import RecordScript.Syntax.Statement

/-!
# Spellings of literals and names

Literals and field names as a program text spells them, and what they stand for. Texts and names in
braces know the same escapes, but only texts may escape quotes; patterns keep their escapes, since
they belong to the language of patterns.
-/

namespace RecordScript

/-- A literal as it is spelled. -/
inductive LiteralSpelling where
  | boolean (b : Bool)
  | number (numeral : List Char)
  | quoted (body : List Char)
  | regex (body : List Char)
deriving DecidableEq, Repr

/-- A field name as it is spelled. -/
inductive NameSpelling where
  | bare (name : List Char)
  | braced (body : List Char)
deriving DecidableEq, Repr

namespace Spelling

/-- Whether a character is a hexadecimal digit. -/
def isHexDigit (c : Char) : Bool :=
  c.isDigit || ('a' ≤ c && c ≤ 'f') || ('A' ≤ c && c ≤ 'F')

/-- The number that hexadecimal digits spell. -/
def hexValue (digits : List Char) : Nat :=
  digits.foldl (fun n c =>
    n * 16 + if c.isDigit then c.toNat - '0'.toNat else c.toLower.toNat - 'a'.toNat + 10) 0

/-- The character whose number is spelled with `width` hexadecimal digits. -/
def numbered (digits : List Char) (width : Nat) : Except SyntaxProblem Char :=
  if digits.length = width ∧ digits.all isHexDigit then
    if h : (hexValue digits).isValidChar then .ok (Char.ofNatAux (hexValue digits) h)
    else .error (.noSuchCharacter digits)
  else .error (.malformedEscape digits width)

/-- The number of digits after an escape that gives the number of a character. -/
def escapeWidth? : Char → Option Nat
  | 'x' => some 2
  | 'u' => some 4
  | 'U' => some 8
  | _ => none

/-- The character that an escape of one letter stands for. -/
def simpleEscape? (quoted : Bool) : Char → Option Char
  | '\\' => some '\\'
  | '\x7d' => some '\x7d'
  | 'a' => some '\x07'
  | 'b' => some '\x08'
  | 'f' => some '\x0c'
  | 'n' => some '\n'
  | 'r' => some '\r'
  | 't' => some '\t'
  | 'v' => some '\x0b'
  | '"' => if quoted then some '"' else none
  | '\'' => if quoted then some '\'' else none
  | _ => none

/-- The characters that the body of a quoted text or of a name in braces stands for. -/
def unescape (quoted : Bool) : List Char → Except SyntaxProblem (List Char)
  | [] => .ok []
  | c :: cs =>
    if c ≠ '\\' then (unescape quoted cs).map (c :: ·)
    else
      match cs with
      | [] => .error .danglingBackslash
      | letter :: rest =>
        match escapeWidth? letter with
        | some width =>
          match numbered (rest.take width) width with
          | .ok decoded => (unescape quoted (rest.drop width)).map (decoded :: ·)
          | .error problem => .error problem
        | none =>
          match simpleEscape? quoted letter with
          | some decoded => (unescape quoted rest).map (decoded :: ·)
          | none => .error (.unknownEscape letter)
termination_by cs => cs.length

/-- The text of the pattern that the body of a pattern literal stands for: only the slash is
unescaped. -/
def unescapeRegex : List Char → List Char
  | '\\' :: '/' :: cs => '/' :: unescapeRegex cs
  | '\\' :: c :: cs => '\\' :: c :: unescapeRegex cs
  | c :: cs => c :: unescapeRegex cs
  | [] => []

end Spelling

namespace LiteralSpelling

/-- The value that a literal stands for. -/
def decode [RegexEngine] : LiteralSpelling → Except SyntaxProblem Value
  | boolean b => .ok (.boolean b)
  | number numeral =>
    match Decimal.readNumeral numeral with
    | some n => .ok (.number n)
    | none => .error (.invalidNumber (Decimal.complaint numeral))
  | quoted body => (Spelling.unescape true body).map fun cs => .string (String.ofList cs)
  | regex body =>
    match Pattern.ofSource (String.ofList (Spelling.unescapeRegex body)) false with
    | .ok p => .ok (.regex p)
    | .error report => .error (.invalidRegex report)

end LiteralSpelling

namespace NameSpelling

/-- The field name that a spelling stands for. -/
def decode : NameSpelling → Except SyntaxProblem String
  | bare name => .ok (String.ofList name)
  | braced body => (Spelling.unescape false body).map String.ofList

end NameSpelling

/-- A result with its problem at the given place. -/
def problemAt {α : Type} (position : Position) : Except SyntaxProblem α → Except SyntaxError α
  | .ok a => .ok a
  | .error problem => .error ⟨position, problem⟩

end RecordScript
