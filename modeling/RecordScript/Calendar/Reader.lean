import RecordScript.Calendar.Fields
import RecordScript.Text.Trim

/-!
# Reading dates

A text is read along the items of a format. Each item takes characters off the front of the text and
gives the parts it finds; the first item that fails decides the problem that is reported.
-/

namespace RecordScript

namespace DateReader

/-- What is left of the text, and the parts given so far. -/
structure State where
  rest : List Char
  fields : DateFields

/-- The number of bytes that characters take in the encoding UTF-8, in which lengths are compared.
-/
def byteLength (cs : List Char) : Nat := cs.foldl (fun n c => n + c.utf8Size) 0

/-- The largest value of a signed word of 64 bits. -/
def wordMax : Nat := Int64.maxValue.toInt.toNat

/-- The text without the white space in front of it. -/
def skipSpace (cs : List Char) : List Char := cs.dropWhile Unicode.isWhiteSpace

/-- Reads at least one digit and at most `width` of them. -/
def readDigits (width : Option Nat) (cs : List Char) : Except DateProblem (Nat × List Char) :=
  let digits := match width with
    | some w => (cs.take w).takeWhile Char.isDigit
    | none => cs.takeWhile Char.isDigit
  match cs, digits with
  | [], _ => .error .tooShort
  | _, [] => .error .invalid
  | _, _ =>
    let n := digits.foldl (fun n c => n * 10 + (c.toNat - '0'.toNat)) 0
    if n ≤ wordMax then .ok (n, cs.drop digits.length) else .error .outOfRange

/-- Reads the number of a part, with a sign where the part may have one. -/
def readNumber (field : NumericField) (cs : List Char) :
    Except DateProblem (Int × List Char) := do
  match field.isSigned, skipSpace cs with
  | true, '-' :: cs =>
    let (n, rest) ← readDigits none cs
    return (-n, rest)
  | true, '+' :: cs =>
    let (n, rest) ← readDigits none cs
    return (n, rest)
  | _, cs =>
    let (n, rest) ← readDigits field.width cs
    return (n, rest)

/-- The characters in lower case, where they are ASCII letters. -/
def lower (cs : List Char) : List Char := cs.map Char.toLower

/-- The three-letter names of the months, with the letters that complete each. -/
def monthNames : List (String × String) := [
  ("jan", "uary"), ("feb", "ruary"), ("mar", "ch"), ("apr", "il"), ("may", ""), ("jun", "e"),
  ("jul", "y"), ("aug", "ust"), ("sep", "tember"), ("oct", "ober"), ("nov", "ember"),
  ("dec", "ember")]

/-- The three-letter names of the weekdays from Monday on, with the letters that complete each. -/
def weekdayNames : List (String × String) := [
  ("mon", "day"), ("tue", "sday"), ("wed", "nesday"), ("thu", "rsday"), ("fri", "day"),
  ("sat", "urday"), ("sun", "day")]

/-- Reads a name, completed where `long` allows it: its place in the list and what follows it. -/
def readName (names : List (String × String)) (long : Bool) (cs : List Char) :
    Except DateProblem (Nat × List Char) :=
  if byteLength cs < 3 then .error .tooShort
  else
    match names.zipIdx.find? fun ((short, _), _) => short.toList = lower (cs.take 3) with
    | none => .error .invalid
    | some ((_, ending), index) =>
      let rest := cs.drop 3
      if long ∧ ending.toList = lower (rest.take ending.length) then
        .ok (index, rest.drop ending.length)
      else .ok (index, rest)

/-- Reads the two letters that name the half of a day. -/
def readHalfDay (cs : List Char) : Except DateProblem (Int × List Char) :=
  if byteLength cs < 2 then .error .tooShort
  else
    match lower (cs.take 2) with
    | ['a', 'm'] => .ok (0, cs.drop 2)
    | ['p', 'm'] => .ok (1, cs.drop 2)
    | _ => .error .invalid

/-- Reads the digits after the point of a second: nanoseconds from the first nine of them. -/
def readFraction (cs : List Char) : Except DateProblem (Int × List Char) := do
  let (n, rest) ← readDigits (some 9) cs
  let digits := cs.length - rest.length
  return (n * Int.pow 10 (9 - digits), rest.dropWhile Char.isDigit)

/-- Reads exactly `count` digits of a fraction of a second. -/
def readFixedFraction (count : Nat) (cs : List Char) : Except DateProblem (Int × List Char) :=
  if byteLength cs < count then .error .tooShort
  else if (cs.take count).all Char.isDigit then do
    let (n, rest) ← readDigits (some count) cs
    return (n * Int.pow 10 (9 - count), rest)
  else .error .invalid

/-- Reads two digits, the first of which is at most `most`; a larger digit is out of range. -/
def readTwoDigits (most : Char) (cs : List Char) : Except DateProblem (Int × List Char) :=
  if byteLength cs < 2 then .error .tooShort
  else
    match cs with
    | a :: b :: rest =>
      if a.isDigit ∧ b.isDigit then
        if a ≤ most then .ok ((a.toNat - '0'.toNat) * 10 + (b.toNat - '0'.toNat), rest)
        else .error .outOfRange
      else .error .invalid
    | _ => .error .invalid

/-- Reads the minutes of an offset, which may be missing at the end of the text. -/
def readOffsetMinutes (missing : Bool) (cs : List Char) : Except DateProblem (Int × List Char) :=
  if 2 ≤ byteLength cs then readTwoDigits '5' cs
  else if !missing ∨ cs ≠ [] then .error .tooShort
  else .ok (0, [])

/-- Reads a distance from universal time, in seconds. -/
def readOffset (zulu missing : Bool) (cs : List Char) : Except DateProblem (Int × List Char) := do
  match zulu, cs with
  | true, 'Z' :: rest | true, 'z' :: rest => return (0, rest)
  | _, _ =>
    let (sign, cs) ← match cs with
      | '+' :: rest => pure ((1 : Int), rest)
      | '-' :: rest | '−' :: rest => pure (-1, rest)
      | _ :: _ => throw .invalid
      | [] => throw .tooShort
    let (hours, cs) ← readTwoDigits '9' cs
    let cs := cs.dropWhile fun c => c = ':' || Unicode.isWhiteSpace c
    let (minutes, cs) ← readOffsetMinutes missing cs
    return (sign * (hours * 3600 + minutes * 60), cs)

/-- Reads the text of a literal item. -/
def readLiteral (text cs : List Char) : Except DateProblem (List Char) :=
  if byteLength cs < byteLength text then .error .tooShort
  else if text.isPrefixOf cs then .ok (cs.drop text.length)
  else .error .invalid

/-- Reads what a single item stands for, other than a full timestamp. -/
def readSimple (item : DateItem) (s : State) : Except DateProblem State := do
  match item with
  | .literal text => return { s with rest := ← readLiteral text s.rest }
  | .space => return { s with rest := skipSpace s.rest }
  | .number field =>
    let (n, rest) ← readNumber field s.rest
    return ⟨rest, ← s.fields.giveNumber field n⟩
  | .monthName long =>
    let (index, rest) ← readName monthNames long s.rest
    return ⟨rest, ← s.fields.giveMonth (index + 1)⟩
  | .weekdayName long =>
    let (index, rest) ← readName weekdayNames long s.rest
    return ⟨rest, ← s.fields.giveWeekday index⟩
  | .halfDay =>
    let (half, rest) ← readHalfDay s.rest
    return ⟨rest, ← s.fields.giveHalfDay half⟩
  | .fraction =>
    match s.rest with
    | '.' :: cs =>
      let (n, rest) ← readFraction cs
      return ⟨rest, ← s.fields.giveNanosecond n⟩
    | _ => return s
  | .fixedFraction count =>
    let (n, rest) ← readFixedFraction count s.rest
    return ⟨rest, ← s.fields.giveNanosecond n⟩
  | .zoneName => return { s with rest := s.rest.dropWhile (!Unicode.isWhiteSpace ·) }
  | .zoneOffset permissive =>
    let (seconds, rest) ← readOffset permissive permissive (skipSpace s.rest)
    return ⟨rest, ← s.fields.giveOffset seconds⟩
  | .fullTimestamp | .bad => throw .badFormat

/-- Reads what a list of simple items stands for. -/
def readSimples (items : List DateItem) (s : State) : Except DateProblem State :=
  items.foldlM (fun s item => readSimple item s) s

/-- The items of the date in a full timestamp. -/
def timestampDate : List DateItem :=
  [.number .year, .space, .literal ['-'], .number .month, .space, .literal ['-'], .number .day]

/-- The items of the time in a full timestamp. -/
def timestampTime : List DateItem :=
  [.number .hour, .space, .literal [':'], .number .minute, .space, .literal [':'],
    .number .second, .fraction, .space]

/-- Reads a date, the letter T or a space, a time, and a distance from universal time. -/
def readTimestamp (s : State) : Except DateProblem State := do
  let s ← readSimples timestampDate s
  let rest ← match s.rest with
    | 't' :: rest | 'T' :: rest | ' ' :: rest => pure rest
    | _ :: _ => throw .invalid
    | [] => throw .tooShort
  let s ← readSimples timestampTime { s with rest }
  let cs := skipSpace s.rest
  let (seconds, rest) ←
    if lower (cs.take 3) = ['u', 't', 'c'] then pure (0, cs.drop 3) else readOffset true false cs
  return ⟨rest, ← s.fields.giveOffset seconds⟩

/-- Reads what an item stands for. -/
def readItem (item : DateItem) (s : State) : Except DateProblem State :=
  match item with
  | .fullTimestamp => readTimestamp s
  | item => readSimple item s

/-- The parts that a text gives along the items of a format. -/
def readFields (items : List DateItem) (text : List Char) : Except DateProblem DateFields := do
  let s ← items.foldlM (fun s item => readItem item s) ⟨text, {}⟩
  if s.rest = [] then return s.fields else throw .trailing

end DateReader

/-- The date that a text spells in a format. White space around the text does not count. -/
def Date.read (text format : String) : Except DateProblem Date := do
  let fields ← DateReader.readFields (DateItem.ofFormat format) (Text.trimChars text.toList)
  fields.toDate

end RecordScript
