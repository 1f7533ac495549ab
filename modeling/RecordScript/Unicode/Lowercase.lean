import RecordScript.Unicode.Cased
import RecordScript.Unicode.CaseIgnorable
import RecordScript.Unicode.LowercaseSpans

/-!
# Lower case of texts

The full lower case of a text. It is the lower case of each character, with two exceptions: the
capital I with a dot becomes two characters, and a capital sigma at the end of a word becomes a
final sigma, so that the lower case of a text is not decided character by character.
-/

namespace RecordScript.Unicode

/-- The capital sigma, the one letter whose lower case depends on its neighbours. -/
def capitalSigma : Char := 'Σ'

/-- The lower case of a character that stands alone. -/
def lowerChar (c : Char) : List Char :=
  if c = 'İ' then ['i', Char.ofNat 0x307] else [mapThrough lowercaseSpans c]

/-- Whether the first character that is not case-ignorable is cased. -/
def nextIsCased (cs : List Char) : Bool :=
  match cs.dropWhile isCaseIgnorable with
  | c :: _ => isCased c
  | [] => false

/-- The lower case of the characters `cs`, with the characters before them in reverse order. -/
def lowerAfter (before : List Char) : List Char → List Char
  | [] => []
  | c :: cs =>
    let image :=
      if c = capitalSigma then
        if nextIsCased before && !nextIsCased cs then ['ς'] else ['σ']
      else lowerChar c
    image ++ lowerAfter (c :: before) cs

/-- The full lower case of a text. -/
def lowercase (s : String) : String :=
  String.ofList (lowerAfter [] s.toList)

end RecordScript.Unicode
