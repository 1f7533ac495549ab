import RecordScript.Unicode.CategoryRuns
import RecordScript.Unicode.GraphemeExtend

/-!
# Quoted texts

The form in which messages and rendered records show a text: between double quotes, with every
character that cannot be read on its own written as an escape.
-/

namespace RecordScript.Text

/-- Whether a character is shown by its number: it leaves no ink, or it joins the character before
it. The plain space is shown as it is. -/
def shownByNumber (c : Char) : Bool :=
  c ≠ ' ' && ((Unicode.generalCategory c).isInvisible || Unicode.isGraphemeExtend c)

/-- The form of one character inside a quoted text. -/
def quoteChar (c : Char) : List Char :=
  match c with
  | '"' => ['\\', '"']
  | '\\' => ['\\', '\\']
  | '\n' => ['\\', 'n']
  | '\r' => ['\\', 'r']
  | '\t' => ['\\', 't']
  | '\x00' => ['\\', '0']
  | c =>
    if shownByNumber c then
      ['\\', 'u', '\x7b'] ++ Nat.toDigits 16 c.toNat ++ ['\x7d']
    else [c]

/-- The quoted form of a list of characters. -/
def quoteChars (cs : List Char) : List Char := '"' :: (cs.flatMap quoteChar ++ ['"'])

/-- The quoted form of a text. -/
def quote (s : String) : String := String.ofList (quoteChars s.toList)

end RecordScript.Text
