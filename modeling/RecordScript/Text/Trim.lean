import RecordScript.Unicode.WhiteSpace

/-!
# Trimming

Texts without the white space at their two ends.
-/

namespace RecordScript.Text

/-- The characters without the white space at either end. -/
def trimChars (cs : List Char) : List Char :=
  ((cs.dropWhile Unicode.isWhiteSpace).reverse.dropWhile Unicode.isWhiteSpace).reverse

/-- The text without the white space at either end. -/
def trim (s : String) : String := String.ofList (trimChars s.toList)

end RecordScript.Text
