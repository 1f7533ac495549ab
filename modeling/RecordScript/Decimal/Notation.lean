import RecordScript.Decimal.Basic
import RecordScript.Text.Trim

/-!
# Decimals as text

How a text is read as a decimal, how a decimal is written into a field, and the shorter form in
which messages show a number that should have been an integer.
-/

namespace RecordScript.Decimal

/-- The value of a string of decimal digits. -/
def digitsValue (cs : List Char) : Nat :=
  cs.foldl (fun n c => n * 10 + (c.toNat - '0'.toNat)) 0

/-- Splits a sign off the front of a numeral: whether it is a minus, and the rest. -/
def splitSign : List Char → Bool × List Char
  | '-' :: cs => (true, cs)
  | '+' :: cs => (false, cs)
  | cs => (false, cs)

/-- The integer of the given sign and magnitude. -/
def signed (minus : Bool) (n : Nat) : Int := if minus then -(n : Int) else n

/-- Reads an exponent: an optional sign and at least one digit. -/
def readExponent (cs : List Char) : Option Int :=
  let (minus, ds) := splitSign cs
  if ds ≠ [] ∧ ds.all Char.isDigit then some (signed minus (digitsValue ds)) else none

/-- Reads the digits of a numeral: an optional sign, a digit, then digits and underscores. -/
def readDigits (cs : List Char) : Option Int :=
  let (minus, ds) := splitSign cs
  match ds with
  | d :: rest =>
    if d.isDigit ∧ rest.all fun c => c.isDigit || c = '_' then
      some (signed minus (digitsValue ((d :: rest).filter Char.isDigit)))
    else none
  | [] => none

/-- Splits a numeral at its exponent mark. -/
def splitExponent (cs : List Char) : List Char × Option (List Char) :=
  let isMark := fun c => c = 'e' || c = 'E'
  match cs.dropWhile (!isMark ·) with
  | _ :: exponent => (cs.takeWhile (!isMark ·), some exponent)
  | [] => (cs, none)

/-- Drops the point of a numeral: the characters around it, and the number of places after it. -/
def dropPoint (cs : List Char) : List Char × Nat :=
  match cs.dropWhile (· ≠ '.') with
  | _ :: fraction => (cs.takeWhile (· ≠ '.') ++ fraction, (fraction.filter (· ≠ '_')).length)
  | [] => (cs, 0)

/-- Reads a numeral without surrounding white space. -/
def readNumeral (cs : List Char) : Option Decimal := do
  let (base, exponent) := splitExponent cs
  let exponent ← match exponent with
    | some cs => readExponent cs
    | none => some 0
  let (digits, places) := dropPoint base
  let digits ← readDigits digits
  return ⟨digits, places - exponent⟩

/-- What a message says of digits that are no integer. -/
def integerComplaint (ds : List Char) : String :=
  if ds = [] then "cannot parse integer from empty string" else "invalid digit found in string"

/-- What a message says of a text that is no numeral. The exponent is read before the digits. -/
def complaint (cs : List Char) : String :=
  let (base, exponent) := splitExponent cs
  match exponent.filter fun cs => (readExponent cs).isNone with
  | some cs => integerComplaint cs
  | none =>
    if base = [] then "Failed to parse empty string"
    else integerComplaint (splitSign (dropPoint base).1).2

/-- The largest power of ten, in either direction, that a number read from text may carry. -/
def scaleLimit : Nat := 4096

/-- Reads a text as a decimal. White space around the numeral does not count, and a scale beyond
`scaleLimit` is refused. -/
def parse (text : String) : Option Decimal := do
  let a ← readNumeral (Text.trim text).toList
  if a.scale.natAbs ≤ scaleLimit then some a else none

/-- Digits with a point before the last `places` of them, and at least one digit before the point.
-/
def insertPoint (digits : List Char) (places : Nat) : List Char :=
  let padded := List.replicate (places + 1 - digits.length) '0' ++ digits
  padded.take (padded.length - places) ++ '.' :: padded.drop (padded.length - places)

/-- The characters of the positional notation without its sign. -/
def plainMagnitude (a : Decimal) : List Char :=
  let digits := Nat.toDigits 10 a.digits.natAbs
  if a.scale < 0 then
    if a.isZero then digits else digits ++ List.replicate a.scale.natAbs '0'
  else if a.scale = 0 then digits
  else insertPoint digits a.scale.toNat

/-- The positional notation, with as many places as the scale says. -/
def format (a : Decimal) : String :=
  String.ofList (if a.digits < 0 then '-' :: a.plainMagnitude else a.plainMagnitude)

/-- The most zeros after the point that a message writes out. -/
def leadingZeroLimit : Int := 5

/-- The most zeros that a message writes out after the digits of a number. -/
def trailingZeroLimit : Int := 15

/-- The characters of the form of a number in messages, without its sign: positional notation, or an
exponent where that would need too many zeros. -/
def messageMagnitude (a : Decimal) : List Char :=
  let digits := Nat.toDigits 10 a.digits.natAbs
  if leadingZeroLimit < a.scale - digits.length then
    let mantissa := match digits with
      | d :: rest@(_ :: _) => d :: '.' :: rest
      | ds => ds
    mantissa ++ s!"E-{(a.scale - digits.length + 1).natAbs}".toList
  else if trailingZeroLimit < -a.scale then digits ++ s!"e+{(-a.scale).natAbs}".toList
  else if a.scale ≤ 0 then digits ++ List.replicate a.scale.natAbs '0'
  else insertPoint digits a.scale.toNat

/-- The form of a number in messages. -/
def inMessage (a : Decimal) : String :=
  String.ofList (if a.digits < 0 then '-' :: a.messageMagnitude else a.messageMagnitude)

end RecordScript.Decimal
