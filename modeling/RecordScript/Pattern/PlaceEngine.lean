import RecordScript.Pattern.Basic
import RecordScript.Pattern.Reader
import RecordScript.Pattern.Search

/-!
# An engine of regular expressions

The engine that runs: it reads a pattern text as a tree and follows the sets of places that the tree
reaches. Of the properties of characters it knows the general categories, the scripts and the few of
`CharProperty`; the size of a pattern is bounded by an estimate. What holds of the language holds
with any engine, so nothing rests on these limits.
-/

namespace RecordScript

namespace RegexError

/-- The wording of an error. -/
def message : RegexError → String
  | unclosedGroup => "unclosed group"
  | unopenedGroup => "unopened group"
  | badGroupName => "invalid capture group character"
  | repeatedGroupName => "duplicate capture group name"
  | badFlags => "unrecognized flag"
  | lookAround => "look-around, including look-ahead and look-behind, is not supported"
  | nothingToRepeat => "repetition operator missing expression"
  | badCount => "repetition quantifier expects a valid decimal"
  | badEscape => "unrecognized escape sequence"
  | badCharacterNumber => "invalid hexadecimal digit"
  | backReference => "backreferences are not supported"
  | unknownProperty => "Unicode property not found"
  | badBoundary => "special word boundary assertion is unclosed or has an invalid character"
  | unclosedClass => "unclosed character class"
  | badClassItem => "invalid escape sequence found in character class"
  | badClassRange => "invalid character class range, the start must be <= the end"
  | notText => "pattern can match invalid UTF-8"
  | tooDeep =>
    s!"exceeded the maximum number of nested parentheses/brackets ({RegexReader.depthLimit})"
  | tooLarge => s!"Compiled regex exceeds size limit of {RegexReader.weightLimit} bytes."

/-- The report on a pattern text with the given error; it marks no place in the text. -/
def report (source : String) : RegexError → String
  | tooLarge => tooLarge.message
  | e => s!"regex parse error:\n    {source}\nerror: {e.message}"

end RegexError

/-- The engine that reads patterns and follows sets of places. -/
instance placeEngine : RegexEngine where
  compile source ignoreCase :=
    match Regex.read source ignoreCase with
    | .ok regex => .ok regex.matchesIn
    | .error e => .error (e.report source)

/-- The pattern whose text is read as the given tree. -/
def Regex.pattern (regex : Regex) (source : String) (ignoreCase : Bool)
    (h : Regex.read source ignoreCase = .ok regex) : Pattern where
  source
  ignoreCase
  test := regex.matchesIn
  compile_eq := by simp [RegexEngine.compile, h]

end RecordScript
