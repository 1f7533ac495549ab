import RecordScript.Pattern.CharSet

/-!
# Regular expressions

The trees of patterns. An atom either takes one character of a set or asserts something about the
two characters around a place; the flags of the pattern text are already resolved into the atoms.
-/

namespace RecordScript

/-- What can be asserted about a place between two characters. -/
inductive Assertion where
  | textStart
  | textEnd
  | lineStart
  | lineEnd
  | anyLineStart
  | anyLineEnd
  | wordBoundary
  | notWordBoundary
  | wordStart
  | wordEnd
  | wordStartHalf
  | wordEndHalf
deriving DecidableEq, Repr

/-- An atom of a pattern: one character of a set, or an assertion in which `word` says which
characters form words. -/
inductive Atom where
  | oneOf (set : CharSet)
  | assert (assertion : Assertion) (word : CharSet)
deriving DecidableEq, Repr

/-- A tree of concatenations, alternatives and repetitions over leaves of type `α`. -/
inductive RegexOf (α : Type) where
  | empty
  | leaf (a : α)
  | seq (r s : RegexOf α)
  | alt (r s : RegexOf α)
  | repeated (r : RegexOf α) (least : Nat) (most : Option Nat)
deriving DecidableEq, Repr

/-- A pattern over atoms. -/
abbrev Regex := RegexOf Atom

namespace RegexOf

variable {α β : Type}

/-- The same tree with every leaf replaced by its image. -/
def map (f : α → β) : RegexOf α → RegexOf β
  | empty => empty
  | leaf a => leaf (f a)
  | seq r s => seq (r.map f) (s.map f)
  | alt r s => alt (r.map f) (s.map f)
  | repeated r least most => repeated (r.map f) least most

/-- The concatenation of a list of trees. -/
def seqAll : List (RegexOf α) → RegexOf α
  | [] => empty
  | [r] => r
  | r :: rs => seq r (seqAll rs)

/-- The alternative between the trees of a list. -/
def altAll : List (RegexOf α) → RegexOf α
  | [] => empty
  | [r] => r
  | r :: rs => alt r (altAll rs)

/-- The size of the tree with every counted repetition written out, given the size of the leaves. -/
def weight (leafWeight : α → Nat) : RegexOf α → Nat
  | empty => 1
  | leaf a => leafWeight a
  | seq r s => r.weight leafWeight + s.weight leafWeight
  | alt r s => r.weight leafWeight + s.weight leafWeight + 1
  | repeated r least most =>
    match most with
    | some n => r.weight leafWeight * n + 1
    | none => r.weight leafWeight * (least + 1) + 1

end RegexOf

namespace Assertion

/-- Whether the assertion holds between two neighbours, either of which may be missing at an end of
the text. -/
def holds (word : Char → Bool) (before after : Option Char) : Assertion → Bool
  | textStart => before.isNone
  | textEnd => after.isNone
  | lineStart => before.isNone || before = some '\n'
  | lineEnd => after.isNone || after = some '\n'
  | anyLineStart =>
    before.isNone || before = some '\n' || (before = some '\r' && after ≠ some '\n')
  | anyLineEnd =>
    after.isNone || after = some '\r' || (after = some '\n' && before ≠ some '\r')
  | wordBoundary => before.any word != after.any word
  | notWordBoundary => before.any word == after.any word
  | wordStart => !before.any word && after.any word
  | wordEnd => before.any word && !after.any word
  | wordStartHalf => !before.any word
  | wordEndHalf => !after.any word

end Assertion

end RecordScript
