import RecordScript.Unicode.FoldingSpans

/-!
# Case variants

Two characters are case variants of each other when their simple case foldings agree. Patterns that
ignore case accept every variant of the characters they name.
-/

namespace RecordScript.Unicode

/-- The character that stands for all case variants of `c`. -/
def simpleFold (c : Char) : Char := mapThrough foldingSpans c

/-- All case variants of a character, the character itself among them. -/
def caseVariants (c : Char) : List Char :=
  let folded := simpleFold c
  folded :: foldingSpans.toList.filterMap fun span =>
    (span.sourceOf? folded.toNat).map Char.ofNat

end RecordScript.Unicode
