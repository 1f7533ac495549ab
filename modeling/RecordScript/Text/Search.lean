/-!
# Searching texts

Whether one text occurs inside another, character by character.
-/

namespace RecordScript.Text

/-- Whether `needle` stands somewhere in the given characters. -/
def occursIn (needle : List Char) : List Char → Bool
  | [] => needle.isEmpty
  | c :: cs => needle.isPrefixOf (c :: cs) || occursIn needle cs

/-- Whether the text `needle` stands somewhere in the text `subject`. -/
def contains (subject needle : String) : Bool := occursIn needle.toList subject.toList

end RecordScript.Text
