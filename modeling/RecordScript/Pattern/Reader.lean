import RecordScript.Pattern.Regex

/-!
# Reading patterns

The text form of patterns. Reading resolves the flags as it goes, so that the tree it returns needs
no flags; it refuses what cannot be searched for in linear time, such as back references and
look-around.
-/

namespace RecordScript

/-- Why a text is no pattern. -/
inductive RegexError where
  | unclosedGroup
  | unopenedGroup
  | badGroupName
  | repeatedGroupName
  | badFlags
  | lookAround
  | nothingToRepeat
  | badCount
  | badEscape
  | badCharacterNumber
  | backReference
  | unknownProperty
  | badBoundary
  | unclosedClass
  | badClassItem
  | badClassRange
  | notText
  | tooDeep
  | tooLarge
deriving DecidableEq, Repr

namespace RegexReader

/-- The flags in force at a place of a pattern. -/
structure Flags where
  ignoreCase : Bool := false
  multiLine : Bool := false
  dotAll : Bool := false
  spaced : Bool := false
  unicode : Bool := true
  anyLineEnd : Bool := false
deriving DecidableEq, Repr

/-- What is left of the pattern text, the flags in force, and the group names seen so far. -/
structure State where
  rest : List Char
  flags : Flags
  names : List String := []

/-- A step of reading. -/
abbrev Reader := StateT State (Except RegexError)

/-- A part of a pattern with the depth of its nesting. -/
structure Part (α : Type) where
  value : α
  depth : Nat

/-- The deepest nesting of a pattern. -/
def depthLimit : Nat := 250

/-- The largest size of a pattern with its repetitions written out. -/
def weightLimit : Nat := 10 * 1024 * 1024

/-- Drops white space and comments; `comment` says whether a comment is open. -/
def dropSpace : Bool → List Char → List Char
  | _, [] => []
  | true, c :: cs => dropSpace (c ≠ '\n') cs
  | false, c :: cs =>
    if Unicode.isWhiteSpace c then dropSpace false cs
    else if c = '#' then dropSpace true cs
    else c :: cs

/-- The rest of a pattern text at the next character that counts. -/
def significant (flags : Flags) (cs : List Char) : List Char :=
  if flags.spaced then dropSpace false cs else cs

/-- Goes on to the next character that counts. -/
def skipSpace : Reader Unit :=
  modify fun s => { s with rest := significant s.flags s.rest }

/-- The next character, which is left in place. -/
def peek? : Reader (Option Char) := return (← get).rest.head?

/-- The next character; the end of the text is the given error. -/
def peekOr (error : RegexError) : Reader Char := do
  match ← peek? with
  | some c => return c
  | none => throw error

/-- Drops one character. -/
def bump : Reader Unit := modify fun s => { s with rest := s.rest.tail }

/-- Drops one character and goes on to the next one that counts. -/
def bumpSpace : Reader Unit := do
  bump
  skipSpace

/-- Takes the given characters if they come next. -/
def take? (word : String) : Reader Bool := do
  let s ← get
  if word.toList.isPrefixOf s.rest then
    set { s with rest := s.rest.drop word.length }
    return true
  else
    return false

/-- The set of word characters under the given flags. -/
def wordSet (flags : Flags) : CharSet :=
  if flags.unicode then .property .wordCharacter
  else .unionAll [.range 'a' 'z', .range 'A' 'Z', .range '0' '9', .single '_']

/-- The set together with the case variants of its members, if case is ignored. -/
def withCase (flags : Flags) (set : CharSet) : CharSet :=
  if flags.ignoreCase then
    if flags.unicode then .anyCase set else .anyAsciiCase set
  else set

/-- The set or its complement. Without Unicode a complement would accept bytes that are no text. -/
def negatedIf (flags : Flags) (negated : Bool) (set : CharSet) : Except RegexError CharSet :=
  if !negated then .ok set
  else if flags.unicode then .ok (.complement set)
  else .error .notText

/-- The hexadecimal digits as a number. -/
def hexValue (cs : List Char) : Nat :=
  cs.foldl (fun n c =>
    let digit :=
      if c.isDigit then c.toNat - '0'.toNat else c.toLower.toNat - 'a'.toNat + 10
    n * 16 + digit) 0

/-- Whether a character is a hexadecimal digit. -/
def isHexDigit (c : Char) : Bool :=
  c.isDigit || ('a' ≤ c && c ≤ 'f') || ('A' ≤ c && c ≤ 'F')

/-- The character with the given number, if there is one. -/
def charOfNumber (n : Nat) : Reader Char :=
  if h : n.isValidChar then return Char.ofNatAux n h else throw .badCharacterNumber

/-- Reads `count` hexadecimal digits. -/
def fixedHex : Nat → List Char → Reader (List Char)
  | 0, digits => do
    skipSpace
    return digits.reverse
  | count + 1, digits => do
    if digits ≠ [] then skipSpace
    let c ← peekOr .badEscape
    if !isHexDigit c then throw .badCharacterNumber
    bump
    fixedHex count (c :: digits)

/-- Reads hexadecimal digits up to a closing brace. -/
def bracedHex : Nat → List Char → Reader (List Char)
  | 0, _ => throw .badEscape
  | fuel + 1, digits => do
    skipSpace
    let c ← peekOr .badEscape
    if c = '\x7d' then
      bumpSpace
      return digits.reverse
    else if isHexDigit c then
      bump
      bracedHex fuel (c :: digits)
    else throw .badCharacterNumber

/-- The number of digits that mean a byte, not a character, where no Unicode is wanted. -/
def byteDigits : Nat := 2

/-- Reads the number of a character after `\x`, `\u` or `\U`, which has `count` digits or braces. A
byte beyond ASCII is no text. -/
def characterNumber (fuel count : Nat) : Reader Char := do
  bumpSpace
  if (← peekOr .badEscape) = '\x7b' then
    bump
    let digits ← bracedHex fuel []
    if digits = [] then throw .badCharacterNumber
    charOfNumber (hexValue digits)
  else
    let c ← charOfNumber (hexValue (← fixedHex count []))
    if count = byteDigits ∧ !(← get).flags.unicode ∧ 0x80 ≤ c.toNat then throw .notText
    return c

/-- Reads the name of a property up to a closing brace. -/
def propertyName : Nat → List Char → Reader (List Char)
  | 0, _ => throw .badEscape
  | fuel + 1, name => do
    skipSpace
    let c ← peekOr .badEscape
    if c = '\x7d' then
      bump
      return name.reverse
    else
      bump
      propertyName fuel (c :: name)

/-- Splits a property name into a kind and a value, with whether the value is negated. -/
def splitProperty (name : List Char) : Option (String × Bool × String) :=
  let isSign := fun c => c = ':' || c = '='
  match name.dropWhile (!isSign ·) with
  | [] => none
  | _ :: value =>
    let kind := name.takeWhile (!isSign ·)
    if kind.getLast? = some '!' ∧ name[kind.length]? = some '=' then
      some (String.ofList kind.dropLast, true, String.ofList value)
    else some (String.ofList kind, false, String.ofList value)

/-- Reads a property class after the backslash. -/
def propertyClass (fuel : Nat) : Reader CharSet := do
  let negated := (← peekOr .badEscape) = 'P'
  bumpSpace
  let first ← peekOr .badEscape
  let (property, negated) ←
    if first = '\x7b' then
      bump
      let name ← propertyName fuel []
      match splitProperty name with
      | some (kind, inverted, value) =>
        pure (CharProperty.ofNameValue? kind value, negated != inverted)
      | none => pure (CharProperty.ofName? (String.ofList name), negated)
    else if first = '\\' then throw .badEscape
    else
      bumpSpace
      pure (CharProperty.ofName? first.toString, negated)
  let flags := (← get).flags
  if !flags.unicode then throw .notText
  match property with
  | some p => negatedIf flags negated (withCase flags (.property p))
  | none => throw .unknownProperty

/-- The class behind one of the letters `d`, `s` and `w`. -/
def letterClass (flags : Flags) (letter : Char) : CharSet :=
  match letter with
  | 'd' => if flags.unicode then .property .decimalDigit else .range '0' '9'
  | 's' =>
    if flags.unicode then .property .whiteSpace
    else .unionAll [.range '\t' '\r', .single ' ']
  | _ => wordSet flags

/-- The characters that mean something in a pattern and may be escaped. -/
def isMeta (c : Char) : Bool := "\\.+*?()|[]\x7b\x7d^$#&-~".toList.contains c

/-- Whether a backslash before the character may be written for the character itself. -/
def isEscapable (c : Char) : Bool :=
  isMeta c || (c.toNat < 0x80 && !c.isAlphanum && c ≠ '<' && c ≠ '>')

/-- What one item of a pattern text stands for. -/
inductive Primitive where
  | char (c : Char)
  | set (s : CharSet)
  | place (a : Assertion)

/-- The assertion that a name in braces after `\b` stands for. -/
def namedBoundary? : String → Option Assertion
  | "start" => some .wordStart
  | "end" => some .wordEnd
  | "start-half" => some .wordStartHalf
  | "end-half" => some .wordEndHalf
  | _ => none

/-- Whether a character may stand in the name of a boundary. -/
def isBoundaryLetter (c : Char) : Bool := c.isAlpha || c = '-'

/-- Reads the letters of a named boundary. -/
def boundaryName : Nat → List Char → Reader (List Char)
  | 0, name => return name.reverse
  | fuel + 1, name => do
    match ← peek? with
    | some c =>
      if isBoundaryLetter c then
        bumpSpace
        boundaryName fuel (c :: name)
      else return name.reverse
    | none => return name.reverse

/-- Reads what may follow `\b`: a named boundary in braces, or nothing. Braces that do not begin
with a letter are left for a repetition. -/
def boundaryAfterB (fuel : Nat) : Reader Assertion := do
  if (← peek?) ≠ some '\x7b' then return .wordBoundary
  let before ← get
  bumpSpace
  let c ← peekOr .badBoundary
  if !isBoundaryLetter c then
    set before
    return .wordBoundary
  let name ← boundaryName fuel []
  if (← peek?) ≠ some '\x7d' then throw .badBoundary
  bump
  match namedBoundary? (String.ofList name) with
  | some a => return a
  | none => throw .badBoundary

/-- Reads an escape, from its backslash on. -/
def escape (fuel : Nat) : Reader Primitive := do
  bump
  let c ← peekOr .badEscape
  if c.isDigit then throw .backReference
  match c with
  | 'x' => return .char (← characterNumber fuel 2)
  | 'u' => return .char (← characterNumber fuel 4)
  | 'U' => return .char (← characterNumber fuel 8)
  | 'p' | 'P' => return .set (← propertyClass fuel)
  | 'd' | 's' | 'w' | 'D' | 'S' | 'W' =>
    bump
    let flags := (← get).flags
    return .set (← negatedIf flags c.isUpper (letterClass flags c.toLower))
  | _ =>
    bump
    if isEscapable c then return .char c
    match c with
    | 'a' => return .char '\x07'
    | 'f' => return .char '\x0c'
    | 't' => return .char '\t'
    | 'n' => return .char '\n'
    | 'r' => return .char '\r'
    | 'v' => return .char '\x0b'
    | 'A' => return .place .textStart
    | 'z' => return .place .textEnd
    | 'b' => return .place (← boundaryAfterB fuel)
    | 'B' => return .place .notWordBoundary
    | '<' => return .place .wordStart
    | '>' => return .place .wordEnd
    | _ => throw .badEscape

/-! ## Bracketed classes -/

/-- The operators between the operands of a class. -/
inductive SetOperator where
  | intersection
  | difference
  | symmetricDifference

/-- The names of the ASCII classes, with their sets. -/
def asciiClass? (name : String) : Option CharSet :=
  let letters := [CharSet.range 'a' 'z', .range 'A' 'Z']
  let digits := CharSet.range '0' '9'
  match name with
  | "alnum" => some (.unionAll (digits :: letters))
  | "alpha" => some (.unionAll letters)
  | "ascii" => some (.range '\x00' '\x7f')
  | "blank" => some (.unionAll [.single '\t', .single ' '])
  | "cntrl" => some (.unionAll [.range '\x00' '\x1f', .single '\x7f'])
  | "digit" => some digits
  | "graph" => some (.range '!' '~')
  | "lower" => some (.range 'a' 'z')
  | "print" => some (.range ' ' '~')
  | "punct" => some (.unionAll [.range '!' '/', .range ':' '@', .range '[' (Char.ofNat 0x60),
      .range '\x7b' '~'])
  | "space" => some (.unionAll [.range '\t' '\r', .single ' '])
  | "upper" => some (.range 'A' 'Z')
  | "word" => some (.unionAll (digits :: .single '_' :: letters))
  | "xdigit" => some (.unionAll [digits, .range 'A' 'F', .range 'a' 'f'])
  | _ => none

/-- An ASCII class such as `[:alpha:]` at the front of a text: whether it is negated, its set, and
what follows it. -/
def splitAsciiClass (cs : List Char) : Option (Bool × CharSet × List Char) := do
  let '[' :: ':' :: cs := cs | none
  let (negated, cs) := match cs with
    | '^' :: rest => (true, rest)
    | _ => (false, cs)
  let ':' :: ']' :: rest := cs.dropWhile (· ≠ ':') | none
  let set ← asciiClass? (String.ofList (cs.takeWhile (· ≠ ':')))
  return (negated, set, rest)

/-- The operands of a class that have been read: the finished part with its operator, the items of
the operand that is being read, and the depth of their nesting. -/
structure ClassItems where
  finished : Option (CharSet × SetOperator) := none
  items : List CharSet := []
  depth : Nat := 0

namespace ClassItems

/-- The items with one more set, which has the given depth. -/
def pushDeep (items : ClassItems) (set : CharSet) (depth : Nat) : ClassItems :=
  { items with items := set :: items.items, depth := max items.depth depth }

/-- The items with one more set without nesting. -/
def push (items : ClassItems) (set : CharSet) : ClassItems := items.pushDeep set 0

/-- The set that has been read so far. -/
def close (items : ClassItems) (flags : Flags) : Part CharSet :=
  let operand := match items.items with
    | [set] => set
    | sets => CharSet.unionAll sets.reverse
  let depth := if items.items.length ≥ 2 then items.depth + 1 else items.depth
  match items.finished with
  | none => ⟨operand, depth⟩
  | some (left, operator) =>
    let left := withCase flags left
    let right := withCase flags operand
    let set := match operator with
      | .intersection => .intersection left right
      | .difference => .difference left right
      | .symmetricDifference => .symmetricDifference left right
    ⟨set, depth + 1⟩

/-- Begins the next operand. -/
def separate (items : ClassItems) (flags : Flags) (operator : SetOperator) : ClassItems :=
  let left := items.close flags
  ⟨some (left.value, operator), [], left.depth⟩

end ClassItems

/-- The items with the hyphens that stand first in a class. -/
def leadingHyphens : Nat → ClassItems → Reader ClassItems
  | 0, items => return items
  | fuel + 1, items => do
    if (← peekOr .unclosedClass) = '-' then
      bumpSpace
      leadingHyphens fuel (items.push (.single '-'))
    else return items

/-- Reads the opening of a class: whether it is negated, and the items that count only there. -/
def openClass (fuel : Nat) : Reader (Bool × ClassItems) := do
  bumpSpace
  let negated := (← peekOr .unclosedClass) = '^'
  if negated then bumpSpace
  let items ← leadingHyphens fuel {}
  let c ← peekOr .unclosedClass
  if items.items = [] ∧ c = ']' then
    bumpSpace
    return (negated, items.push (.single ']'))
  else return (negated, items)

/-- Reads one character or class of a bracketed class. -/
def classPrimitive (fuel : Nat) : Reader Primitive := do
  let c ← peekOr .unclosedClass
  if c = '\\' then escape fuel
  else
    bump
    return .char c

/-- The set of an item that is not the end of a range. -/
def itemSet (flags : Flags) : Primitive → Except RegexError CharSet
  | .char c =>
    if flags.unicode ∨ c.toNat < 0x80 then .ok (.single c) else .error .notText
  | .set s => .ok s
  | .place _ => .error .badClassItem

/-- Reads an item or a range of a bracketed class. -/
def classRange (fuel : Nat) : Reader CharSet := do
  let first ← classPrimitive fuel
  skipSpace
  let s ← get
  let after := (significant s.flags s.rest.tail).head?
  if (← peekOr .unclosedClass) ≠ '-' ∨ after = some ']' ∨ after = some '-' then
    itemSet s.flags first
  else
    bumpSpace
    match first, ← classPrimitive fuel with
    | .char a, .char b =>
      if !s.flags.unicode ∧ 0x80 ≤ b.toNat then throw .notText
      if a ≤ b then return .range a b else throw .badClassRange
    | _, _ => throw .badClassItem

/-- The set of a class whose items have been read. -/
def closeClass (flags : Flags) (negated : Bool) (items : ClassItems) :
    Except RegexError (Part CharSet) := do
  let inner := items.close flags
  let set ← negatedIf flags negated (withCase flags inner.value)
  return ⟨set, inner.depth + 1⟩

/-- Reads a class after its opening, up to and including its closing bracket. -/
def classAfter : Nat → Bool → ClassItems → Reader (Part CharSet)
  | 0, _, _ => throw .unclosedClass
  | fuel + 1, negated, items => do
    skipSpace
    let s ← get
    match s.rest with
    | [] => throw .unclosedClass
    | '[' :: _ =>
      match splitAsciiClass s.rest with
      | some (inverted, ascii, rest) =>
        set { s with rest }
        let ascii ← negatedIf s.flags inverted (withCase s.flags ascii)
        classAfter fuel negated (items.push ascii)
      | none =>
        let (inverted, opening) ← openClass fuel
        let inner ← classAfter fuel inverted opening
        classAfter fuel negated (items.pushDeep inner.value inner.depth)
    | ']' :: _ =>
      bump
      closeClass s.flags negated items
    | '&' :: '&' :: _ =>
      bump
      bump
      classAfter fuel negated (items.separate s.flags .intersection)
    | '-' :: '-' :: _ =>
      bump
      bump
      classAfter fuel negated (items.separate s.flags .difference)
    | '~' :: '~' :: _ =>
      bump
      bump
      classAfter fuel negated (items.separate s.flags .symmetricDifference)
    | _ =>
      let range ← classRange fuel
      classAfter fuel negated (items.push range)

/-- Reads a bracketed class. -/
def bracketedClass (fuel : Nat) : Reader (Part CharSet) := do
  let (negated, items) ← openClass fuel
  classAfter fuel negated items

/-! ## Repetitions -/

/-- Drops the white space that comes next, which counts nowhere around a number. -/
def dropBlanks : Reader Unit :=
  modify fun s => { s with rest := s.rest.dropWhile Unicode.isWhiteSpace }

/-- Reads the digits of a count. -/
def countDigits : Nat → List Char → Reader (List Char)
  | 0, digits => return digits.reverse
  | fuel + 1, digits => do
    match ← peek? with
    | some c =>
      if c.isDigit then
        bumpSpace
        countDigits fuel (c :: digits)
      else return digits.reverse
    | none => return digits.reverse

/-- Reads a count, which may be missing. -/
def count? (fuel : Nat) : Reader (Option Nat) := do
  dropBlanks
  let digits ← countDigits fuel []
  dropBlanks
  if digits = [] then return none
  let n := digits.foldl (fun n c => n * 10 + (c.toNat - '0'.toNat)) 0
  if n < UInt32.size then return some n else throw .badCount

/-- Drops the mark that makes a repetition prefer short matches. -/
def dropLazyMark : Reader Unit := do
  if (← peek?) = some '?' then bump

/-- Reads the bounds of a counted repetition, from its opening brace on. -/
def bounds (fuel : Nat) : Reader (Nat × Option Nat) := do
  bumpSpace
  let _ ← peekOr .badCount
  let least ← count? fuel
  let some least := least | throw .badCount
  let result ←
    if (← peekOr .badCount) = ',' then
      bumpSpace
      if (← peekOr .badCount) = '\x7d' then pure (least, none)
      else
        match ← count? fuel with
        | some most => pure (least, some most)
        | none => throw .badCount
    else pure (least, some least)
  if (← peek?) ≠ some '\x7d' then throw .badCount
  bumpSpace
  dropLazyMark
  if result.2.any (· < result.1) then throw .badCount
  return result

/-! ## Groups -/

/-- Whether a character may stand in the name of a group. -/
def isGroupNameChar (c : Char) (first : Bool) : Bool :=
  if c = '_' || Unicode.isAlphabetic c then true
  else if first then false
  else
    c = '.' || c = '[' || c = ']' ||
      [.nd, .nl, .no].contains (Unicode.generalCategory c)

/-- Reads the name of a group up to its closing angle bracket. -/
def groupName : Reader Unit := do
  let s ← get
  let name := s.rest.takeWhile (· ≠ '>')
  match name with
  | [] => throw .badGroupName
  | first :: others =>
    if !isGroupNameChar first true ∨ !others.all (isGroupNameChar · false) then
      throw .badGroupName
    if name.length = s.rest.length then throw .badGroupName
    let name := String.ofList name
    if s.names.contains name then throw .repeatedGroupName
    set { s with rest := s.rest.drop (name.length + 1), names := name :: s.names }

/-- Sets the flag with the given letter. -/
def setFlag (flags : Flags) (letter : Char) (value : Bool) : Except RegexError Flags :=
  match letter with
  | 'i' => .ok { flags with ignoreCase := value }
  | 'm' => .ok { flags with multiLine := value }
  | 's' => .ok { flags with dotAll := value }
  | 'x' => .ok { flags with spaced := value }
  | 'u' => .ok { flags with unicode := value }
  | 'R' => .ok { flags with anyLineEnd := value }
  | 'U' => .ok flags
  | _ => .error .badFlags

/-- Reads flags up to a colon or a closing parenthesis, which is left; `seen` holds the letters read
so far, in reverse order. -/
def flagLetters : Nat → Flags → List Char → Reader (Flags × List Char)
  | 0, _, _ => throw .badFlags
  | fuel + 1, flags, seen => do
    let c ← peekOr .badFlags
    if c = ':' ∨ c = ')' then
      if seen.head? = some '-' then throw .badFlags
      return (flags, seen)
    else if seen.contains c then throw .badFlags
    else
      bump
      if c = '-' then flagLetters fuel flags (c :: seen)
      else
        let flags ← setFlag flags c (!seen.contains '-')
        flagLetters fuel flags (c :: seen)

/-- How a group begins. -/
inductive Opening where
  | body
  | flags (value : Flags)

/-- Reads the opening of a group, from its parenthesis on. Flags that are set for what follows the
group leave no body. -/
def openGroup (fuel : Nat) : Reader Opening := do
  bump
  skipSpace
  for word in ["?=", "?!", "?<=", "?<!"] do
    if word.toList.isPrefixOf (← get).rest then throw .lookAround
  if (← take? "?P<") || (← take? "?<") then
    groupName
    return .body
  else if ← take? "?" then
    let _ ← peekOr .unclosedGroup
    let (flags, seen) ← flagLetters fuel (← get).flags []
    let last ← peekOr .badFlags
    bump
    if last = ')' then
      if seen = [] then throw .nothingToRepeat
      return .flags flags
    else
      modify fun s => { s with flags }
      return .body
  else return .body

/-! ## Patterns -/

/-- The atom of a literal character. -/
def literalAtom (flags : Flags) (c : Char) : Atom := .oneOf (withCase flags (.single c))

/-- The atom of the point, which accepts no line end unless all characters are asked for. -/
def anyAtom (flags : Flags) : Except RegexError Atom :=
  if !flags.unicode then .error .notText
  else if flags.dotAll then .ok (.oneOf (.property .any))
  else if flags.anyLineEnd then
    .ok (.oneOf (.complement (.union (.single '\r') (.single '\n'))))
  else .ok (.oneOf (.complement (.single '\n')))

/-- The atom of an assertion under the given flags. -/
def assertAtom (flags : Flags) (a : Assertion) : Atom := .assert a (wordSet flags)

/-- What the sign for a start asserts under the given flags. -/
def startAssertion (flags : Flags) : Assertion :=
  if !flags.multiLine then .textStart
  else if flags.anyLineEnd then .anyLineStart
  else .lineStart

/-- What the sign for an end asserts under the given flags. -/
def endAssertion (flags : Flags) : Assertion :=
  if !flags.multiLine then .textEnd
  else if flags.anyLineEnd then .anyLineEnd
  else .lineEnd

/-- Reads one character, escape or sign. -/
def primitiveAtom (fuel : Nat) (c : Char) : Reader Atom := do
  let flags := (← get).flags
  match c with
  | '\\' =>
    match ← escape fuel with
    | .char c => return literalAtom flags c
    | .set s => return .oneOf s
    | .place a => return assertAtom flags a
  | '.' =>
    bump
    anyAtom flags
  | '^' =>
    bump
    return assertAtom flags (startAssertion flags)
  | '$' =>
    bump
    return assertAtom flags (endAssertion flags)
  | c =>
    bump
    return literalAtom flags c

/-- The items of a concatenation in reverse order; flags leave an item that cannot be repeated. -/
abbrev Items := List (Option (Part Regex))

/-- The tree of a concatenation. -/
def concatenation (items : Items) : Part Regex :=
  let parts := items.reverse.filterMap id
  let depth := parts.foldl (fun d p => max d p.depth) 0
  ⟨.seqAll (parts.map (·.value)), if items.length ≥ 2 then depth + 1 else depth⟩

/-- The tree of the alternatives, given in reverse order. -/
def alternatives (branches : List (Part Regex)) : Part Regex :=
  let depth := branches.foldl (fun d p => max d p.depth) 0
  ⟨.altAll (branches.reverse.map (·.value)), if branches.length ≥ 2 then depth + 1 else depth⟩

/-- The items with the last of them repeated. -/
def repeatLast (items : Items) (least : Nat) (most : Option Nat) : Except RegexError Items :=
  match items with
  | some part :: items => .ok (some ⟨.repeated part.value least most, part.depth + 1⟩ :: items)
  | _ => .error .nothingToRepeat

/-- Reads alternatives up to the end of the group or of the text. -/
def expression : Nat → Bool → List (Part Regex) → Items → Reader (Part Regex)
  | 0, _, _, _ => throw .tooLarge
  | fuel + 1, inGroup, branches, items => do
    skipSpace
    match ← peek? with
    | none =>
      if inGroup then throw .unclosedGroup
      return alternatives (concatenation items :: branches)
    | some ')' =>
      if !inGroup then throw .unopenedGroup
      return alternatives (concatenation items :: branches)
    | some '|' =>
      bump
      expression fuel inGroup (concatenation items :: branches) []
    | some '(' =>
      let outer := (← get).flags
      match ← openGroup fuel with
      | .flags value =>
        modify fun s => { s with flags := value }
        expression fuel inGroup branches (none :: items)
      | .body =>
        let inner ← expression fuel true [] []
        bump
        modify fun s => { s with flags := outer }
        expression fuel inGroup branches (some ⟨inner.value, inner.depth + 1⟩ :: items)
    | some '[' =>
      let set ← bracketedClass fuel
      expression fuel inGroup branches (some ⟨.leaf (.oneOf set.value), set.depth⟩ :: items)
    | some '?' =>
      bump
      dropLazyMark
      expression fuel inGroup branches (← repeatLast items 0 (some 1))
    | some '*' =>
      bump
      dropLazyMark
      expression fuel inGroup branches (← repeatLast items 0 none)
    | some '+' =>
      bump
      dropLazyMark
      expression fuel inGroup branches (← repeatLast items 1 none)
    | some '\x7b' =>
      let _ ← repeatLast items 0 none
      let (least, most) ← bounds fuel
      expression fuel inGroup branches (← repeatLast items least most)
    | some c =>
      let atom ← primitiveAtom fuel c
      expression fuel inGroup branches (some ⟨.leaf atom, 0⟩ :: items)

/-- An estimate of the size of an atom, in the same unit as `weightLimit`. -/
def atomWeight : Atom → Nat
  | .oneOf set => 60 * max 1 set.rangeCount
  | .assert _ _ => 40

end RegexReader

open RegexReader in
/-- Reads a text as a pattern, which ignores case from the start if so asked. -/
def Regex.read (source : String) (ignoreCase : Bool) : Except RegexError Regex := do
  let cs := source.toList
  let start : State := { rest := cs, flags := { ignoreCase } }
  let part ← (expression (2 * cs.length + 2) false [] []).run' start
  if depthLimit < part.depth then throw .tooDeep
  if weightLimit < part.value.weight atomWeight then throw .tooLarge
  return part.value

end RecordScript
