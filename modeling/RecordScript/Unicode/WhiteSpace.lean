import RecordScript.Unicode.RangeTable

/-!
# White space

The characters with the property White_Space. Trimming, the patterns of space characters and the
separators of date formats use this one class.
-/

namespace RecordScript.Unicode

/-- The ranges of White_Space. -/
def isWhiteSpaceRanges : Array (Nat × Nat) := #[
  (0x0009, 0x000D), (0x0020, 0x0020), (0x0085, 0x0085), (0x00A0, 0x00A0), (0x1680, 0x1680),
  (0x2000, 0x200A), (0x2028, 0x2029), (0x202F, 0x202F), (0x205F, 0x205F), (0x3000, 0x3000)]

/-- Whether a character has the property White_Space. -/
def isWhiteSpace (c : Char) : Bool := rangesContain isWhiteSpaceRanges c

end RecordScript.Unicode
