import RecordScript.Unicode.Alphabetic
import RecordScript.Unicode.CategoryRuns

/-!
# Word characters and digits

The classes of characters that patterns call word characters and digits.
-/

namespace RecordScript.Unicode

/-- Whether a character is a decimal digit of some script. -/
def isDecimalDigit (c : Char) : Bool := generalCategory c = .nd

/-- Whether a character can be part of a word: letters, marks, digits, connectors and joiners. -/
def isWordCharacter (c : Char) : Bool :=
  isAlphabetic c || (generalCategory c).isMark || isDecimalDigit c || generalCategory c = .pc ||
    c.toNat = 0x200C || c.toNat = 0x200D

end RecordScript.Unicode
