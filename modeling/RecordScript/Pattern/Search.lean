import RecordScript.Pattern.Regex

/-!
# Searching with patterns

Whether a pattern matches somewhere in a text. The places of the text are numbered from zero, and a
set of places is a number whose bits are the members. A pattern maps the set of places where a match
may start to the set of places where it may end; since only the existence of a match is asked for,
nothing else has to be remembered.
-/

namespace RecordScript

/-- A set of places in a text, as the bits of a number. -/
abbrev PlaceSet := Nat

namespace PlaceSet

/-- The set of the places below `count` that satisfy a condition. -/
def ofCondition (holds : Nat → Bool) : Nat → PlaceSet
  | 0 => 0
  | count + 1 =>
    let rest := ofCondition holds count
    if holds count then rest ||| (1 <<< count) else rest

end PlaceSet

/-- What an atom does in one text: it moves over a character at the given places, or stays at them.
-/
inductive PlaceFilter where
  | move (places : PlaceSet)
  | stay (places : PlaceSet)

namespace PlaceFilter

/-- The places reached from the given places. -/
def apply : PlaceFilter → PlaceSet → PlaceSet
  | move places, starts => (starts &&& places) <<< 1
  | stay places, starts => starts &&& places

end PlaceFilter

namespace Atom

/-- What the atom does in the text `text`. -/
def filterIn (text : Array Char) : Atom → PlaceFilter
  | oneOf set => .move (PlaceSet.ofCondition (fun i => text[i]?.any set.contains) text.size)
  | assert assertion word =>
    .stay (PlaceSet.ofCondition
      (fun i => assertion.holds word.contains (if i = 0 then none else text[i - 1]?) text[i]?)
      (text.size + 1))

end Atom

namespace RegexOf

/-- Applies a step `count` times; a set that a step leaves as it is stays so. -/
def iterate (step : PlaceSet → PlaceSet) : Nat → PlaceSet → PlaceSet
  | 0, places => places
  | count + 1, places =>
    let next := step places
    if next = places then places else iterate step count next

/-- Adds the places reached by at most `count` steps; a set that a step does not enlarge is
complete. -/
def saturate (step : PlaceSet → PlaceSet) : Nat → PlaceSet → PlaceSet
  | 0, places => places
  | count + 1, places =>
    let next := places ||| step places
    if next = places then places else saturate step count next

/-- The places where a match that starts at one of the given places may end, in a text with `size`
characters. -/
def reach (size : Nat) : RegexOf PlaceFilter → PlaceSet → PlaceSet
  | empty, places => places
  | leaf filter, places => filter.apply places
  | seq r s, places => s.reach size (r.reach size places)
  | alt r s, places => r.reach size places ||| s.reach size places
  | repeated r least most, places =>
    let required := iterate (r.reach size) least places
    match most with
    | some n => saturate (r.reach size) (n - least) required
    | none => saturate (r.reach size) (size + 1) required

end RegexOf

namespace Regex

/-- Whether the pattern matches somewhere in the text. -/
def matchesIn (r : Regex) (text : String) : Bool :=
  let chars := text.toList.toArray
  let everywhere := PlaceSet.ofCondition (fun _ => true) (chars.size + 1)
  (RegexOf.map (Atom.filterIn chars) r).reach chars.size everywhere ≠ 0

end Regex

end RecordScript
