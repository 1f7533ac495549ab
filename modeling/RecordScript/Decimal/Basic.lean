/-!
# Exact decimals

A decimal is an integer of digits and a scale: its value is `digits * 10 ^ (-scale)`. The scale may
be negative, and one value has many decimals. Sums, differences and products are exact; the scale of
a result is part of the answer, because a number is written with its scale.
-/

namespace RecordScript

/-- The number `digits * 10 ^ (-scale)`, together with the scale it is written at. -/
structure Decimal where
  digits : Int
  scale : Int
deriving DecidableEq, Repr, Inhabited

namespace Decimal

/-- The integer `n`, at scale zero. -/
def ofInt (n : Int) : Decimal := ⟨n, 0⟩

/-- Whether the value is zero, at any scale. -/
def isZero (a : Decimal) : Bool := a.digits = 0

/-- The digits of `a` at a scale that is at least its own. -/
def digitsAt (a : Decimal) (scale : Int) : Int := a.digits * Int.pow 10 (scale - a.scale).toNat

/-- The larger of two scales. -/
def commonScale (a b : Decimal) : Int := max a.scale b.scale

/-- The most places after the point at which a number one is recognised as the unit of products. -/
def unitScaleLimit : Int := 38

/-- Whether `a` is recognised as the unit of products: its value is one, and it has no more than
`unitScaleLimit` places. -/
def isUnit (a : Decimal) : Bool :=
  0 ≤ a.scale ∧ a.scale ≤ unitScaleLimit ∧ a.digits = Int.pow 10 a.scale.toNat

/-- The sum, at the larger of the two scales. -/
def add (a b : Decimal) : Decimal :=
  let scale := commonScale a b
  ⟨a.digitsAt scale + b.digitsAt scale, scale⟩

/-- The negated number, at the same scale. -/
def neg (a : Decimal) : Decimal := ⟨-a.digits, a.scale⟩

/-- The difference, at the larger of the two scales; a zero on either side leaves the scale of the
other side. -/
def sub (a b : Decimal) : Decimal :=
  if b.isZero then a
  else if a.isZero then b.neg
  else
    let scale := commonScale a b
    ⟨a.digitsAt scale - b.digitsAt scale, scale⟩

/-- The product, with the scales added; a unit leaves the other factor as it is. -/
def mul (a b : Decimal) : Decimal :=
  if a.isUnit then b
  else if b.isUnit then a
  else ⟨a.digits * b.digits, a.scale + b.scale⟩

/-- The remainder of the division that truncates the quotient, at the larger of the two scales. -/
def rem (a b : Decimal) : Decimal :=
  let scale := commonScale a b
  ⟨(a.digitsAt scale).tmod (b.digitsAt scale), scale⟩

/-- The order of the two values, whatever their scales. -/
def compare (a b : Decimal) : Ordering :=
  let scale := commonScale a b
  Ord.compare (a.digitsAt scale) (b.digitsAt scale)

/-- The number of trailing zeros of a natural number, looked for in at most `fuel` places. -/
def trailingZeros : Nat → Nat → Nat
  | 0, _ => 0
  | fuel + 1, n => if n % 10 = 0 then trailingZeros fuel (n / 10) + 1 else 0

/-- The number of digits of a natural number in base ten. -/
def digitCount (n : Nat) : Nat := (Nat.toDigits 10 n).length

/-- The same value without trailing zeros among its digits; zero gets the scale zero. -/
def normalize (a : Decimal) : Decimal :=
  if a.isZero then ⟨0, 0⟩
  else
    let zeros := trailingZeros (digitCount a.digits.natAbs) a.digits.natAbs
    ⟨a.digits / Int.pow 10 zeros, a.scale - zeros⟩

/-- The most places by which the digits of a normalized integer of 64 bits can be shifted. -/
def shiftLimit : Nat := 18

/-- Whether an integer can be held in a signed word of 64 bits. -/
def fitsWord (n : Int) : Bool := Int64.minValue.toInt ≤ n ∧ n ≤ Int64.maxValue.toInt

/-- The integer of 64 bits that the number is, if it is one. -/
def toInteger? (a : Decimal) : Option Int :=
  let b := a.normalize
  if 0 < b.scale then none
  else
    let shift := (-b.scale).toNat
    if shiftLimit < shift then none
    else
      let n := b.digits * Int.pow 10 shift
      if fitsWord n then some n else none

end Decimal

end RecordScript
