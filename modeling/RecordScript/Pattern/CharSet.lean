import RecordScript.Unicode.CaseFolding
import RecordScript.Unicode.Lettercase
import RecordScript.Unicode.Script
import RecordScript.Unicode.WhiteSpace
import RecordScript.Unicode.WordCharacter

/-!
# Sets of characters

The sets of characters that patterns speak of: ranges, named properties, and what the set operations
make of them. A set is kept as it was written, and membership is decided by one recursion over it.
-/

namespace RecordScript

/-- A property of characters that patterns can name. -/
inductive CharProperty where
  | any
  | assigned
  | ascii
  | decimalDigit
  | whiteSpace
  | wordCharacter
  | alphabetic
  | lowercase
  | uppercase
  | category (members : List Unicode.GeneralCategory)
  | script (code : String)
deriving DecidableEq, Repr

namespace CharProperty

/-- Whether a character has the property. -/
def holds : CharProperty → Char → Bool
  | any, _ => true
  | assigned, c => Unicode.generalCategory c ≠ .cn
  | ascii, c => c.toNat < 0x80
  | decimalDigit, c => Unicode.isDecimalDigit c
  | whiteSpace, c => Unicode.isWhiteSpace c
  | wordCharacter, c => Unicode.isWordCharacter c
  | alphabetic, c => Unicode.isAlphabetic c
  | lowercase, c => Unicode.isLowercase c
  | uppercase, c => Unicode.isUppercase c
  | category members, c => members.contains (Unicode.generalCategory c)
  | script code, c => Unicode.script c = code

/-- Roughly how many ranges of characters have the property, as a measure of its size. -/
def rangeCount : CharProperty → Nat
  | any | ascii => 1
  | decimalDigit => 72
  | whiteSpace => 10
  | wordCharacter | alphabetic => 800
  | lowercase | uppercase => 670
  | assigned => 740
  | category members => 140 * members.length
  | script _ => 30

/-- The letters of a property name that count when names are compared: case, blanks, hyphens and
underscores do not, nor does a leading `is`. -/
def nameKey (name : String) : List Char :=
  let key := (name.toList.filter fun c => c ≠ ' ' && c ≠ '_' && c ≠ '-').map Char.toLower
  match key with
  | 'i' :: 's' :: rest => if rest = ['c'] then key else rest
  | _ => key

/-- The property of a group of general categories with the given name. -/
def ofCategoryName? (name : String) : Option CharProperty :=
  let key := nameKey name
  let named := Unicode.GeneralCategory.groups.find? fun (names, _) =>
    names.any fun n => nameKey n == key
  named.map fun (_, members) => category members

/-- The property of a script with the given name. -/
def ofScriptName? (name : String) : Option CharProperty :=
  let key := nameKey name
  let named := Unicode.scriptNames.find? fun (code, names) =>
    nameKey code == key || names.any fun n => nameKey n == key
  named.map fun (code, _) => script code

/-- The property with the given name alone. -/
def ofName? (name : String) : Option CharProperty :=
  match String.ofList (nameKey name) with
  | "any" => some any
  | "assigned" => some assigned
  | "ascii" => some ascii
  | "alphabetic" | "alpha" => some alphabetic
  | "lowercase" | "lower" => some lowercase
  | "uppercase" | "upper" => some uppercase
  | "whitespace" | "wspace" | "space" => some whiteSpace
  | _ => (ofCategoryName? name).orElse fun _ => ofScriptName? name

/-- The property that a pair of a kind and a value names; script extensions are taken for scripts. -/
def ofNameValue? (name value : String) : Option CharProperty :=
  match String.ofList (nameKey name) with
  | "generalcategory" | "gc" =>
    match String.ofList (nameKey value) with
    | "any" => some any
    | "assigned" => some assigned
    | "ascii" => some ascii
    | _ => ofCategoryName? value
  | "script" | "sc" | "scriptextensions" | "scx" => ofScriptName? value
  | _ => none

end CharProperty

/-- A set of characters as a pattern writes it. -/
inductive CharSet where
  | none
  | range (first last : Char)
  | property (p : CharProperty)
  | union (a b : CharSet)
  | intersection (a b : CharSet)
  | difference (a b : CharSet)
  | symmetricDifference (a b : CharSet)
  | complement (a : CharSet)
  | anyCase (a : CharSet)
  | anyAsciiCase (a : CharSet)
deriving DecidableEq, Repr

namespace CharSet

/-- The other case of an ASCII letter. -/
def swapAsciiCase (c : Char) : Char :=
  if c.isUpper then c.toLower else if c.isLower then c.toUpper else c

/-- Whether a character belongs to the set. -/
def contains : CharSet → Char → Bool
  | none, _ => false
  | range first last, c => first ≤ c && c ≤ last
  | property p, c => p.holds c
  | union a b, c => a.contains c || b.contains c
  | intersection a b, c => a.contains c && b.contains c
  | difference a b, c => a.contains c && !b.contains c
  | symmetricDifference a b, c => a.contains c != b.contains c
  | complement a, c => !a.contains c
  | anyCase a, c => (Unicode.caseVariants c).any a.contains
  | anyAsciiCase a, c => a.contains c || a.contains (swapAsciiCase c)

/-- The set of one character. -/
def single (c : Char) : CharSet := range c c

/-- The union of a list of sets. -/
def unionAll (sets : List CharSet) : CharSet := sets.foldl union none

/-- How many ranges the set takes when it is written out, as a measure of its size. -/
def rangeCount : CharSet → Nat
  | none => 0
  | range _ _ => 1
  | property p => p.rangeCount
  | union a b | intersection a b | difference a b | symmetricDifference a b =>
    a.rangeCount + b.rangeCount
  | complement a => a.rangeCount + 1
  | anyCase a | anyAsciiCase a => 2 * a.rangeCount

end CharSet

end RecordScript
