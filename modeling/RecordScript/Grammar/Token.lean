import RecordScript.Grammar.Parser

/-!
# Tokens

The words, numbers, literals and signs of the language, split off the front of a text. A word is
always taken whole, so that no keyword is found inside a name.
-/

namespace RecordScript

namespace Token

/-- Whether a word may begin with the character. -/
def isWordStart (c : Char) : Bool := c.isAlpha || c = '_'

/-- Whether the character may stand in a word. -/
def isWordChar (c : Char) : Bool := c.isAlphanum || c = '_'

/-- The words that are no names. -/
def keywords : List String := ["if", "then", "elif", "else", "fi", "true", "false"]

/-- A word. -/
def word : Parser.Scanner
  | c :: cs =>
    if isWordStart c then some (c :: cs.takeWhile isWordChar, cs.dropWhile isWordChar) else none
  | [] => none

/-- The given keyword. -/
def keyword (name : String) : Parser.Scanner := fun cs =>
  match word cs with
  | some (taken, rest) => if taken = name.toList then some (taken, rest) else none
  | none => none

/-- Whether a word is a keyword. -/
def isKeyword (taken : List Char) : Bool := keywords.any fun k => k.toList = taken

/-- A word that is no keyword. -/
def name : Parser.Scanner := fun cs =>
  match word cs with
  | some (taken, rest) => if isKeyword taken then none else some (taken, rest)
  | none => none

/-- One of the two truth values. -/
def boolean : Parser.Scanner := fun cs =>
  match word cs with
  | some (taken, rest) =>
    if taken = "true".toList ∨ taken = "false".toList then some (taken, rest) else none
  | none => none

/-- Digits, and a point with further digits if they follow it. -/
def number : Parser.Scanner := fun cs =>
  let whole := cs.takeWhile Char.isDigit
  if whole = [] then none
  else
    match cs.dropWhile Char.isDigit with
    | '.' :: d :: rest =>
      if d.isDigit then
        some (whole ++ '.' :: d :: rest.takeWhile Char.isDigit, rest.dropWhile Char.isDigit)
      else some (whole, '.' :: d :: rest)
    | rest => some (whole, rest)

/-- The body of a literal up to its closing character, and what follows that. A backslash takes the
next character with it; `oneLine` bodies hold no line end on their own. -/
def body (close : Char) (oneLine : Bool) : List Char → Option (List Char × List Char)
  | [] => none
  | '\\' :: c :: cs =>
    match body close oneLine cs with
    | some (inner, rest) => some ('\\' :: c :: inner, rest)
    | none => none
  | c :: cs =>
    if c = close then some ([], cs)
    else if c = '\\' || (oneLine && (c = '\n' || c = '\r')) then none
    else
      match body close oneLine cs with
      | some (inner, rest) => some (c :: inner, rest)
      | none => none

/-- A literal between an opening and a closing character. -/
def delimited (opening close : Char) (oneLine : Bool) : Parser.Scanner
  | c :: cs =>
    if c = opening then
      match body close oneLine cs with
      | some (inner, rest) => some (opening :: (inner ++ [close]), rest)
      | none => none
    else none
  | [] => none

/-- The body of a literal without the characters around it. -/
def inner (taken : List Char) : List Char := taken.tail.dropLast

/-- A text between quotes of either kind. -/
def quoted : Parser.Scanner := fun cs =>
  (delimited '"' '"' false cs).orElse fun _ => delimited '\'' '\'' false cs

/-- A pattern between slashes. -/
def regex : Parser.Scanner := delimited '/' '/' true

/-- A field name between braces. -/
def bracedName : Parser.Scanner := delimited '\x7b' '\x7d' false

/-- The given sign. -/
def sign (s : String) : Parser.Scanner := fun cs =>
  if s.toList.isPrefixOf cs then some (s.toList, cs.drop s.length) else none

/-- The first of the given signs that comes next. -/
def anySign : List String → Parser.Scanner
  | [], _ => none
  | s :: signs, cs => (sign s cs).orElse fun _ => anySign signs cs

/-- The signs of comparisons, longer ones before their beginnings. -/
def compareSigns : List String := ["==", "!=", "<=", ">=", "<", ">", "~"]

/-- The sign of an assignment, which is not the start of a comparison. -/
def assignSign : Parser.Scanner
  | '=' :: '=' :: _ => none
  | '=' :: rest => some (['='], rest)
  | _ => none

end Token

end RecordScript
