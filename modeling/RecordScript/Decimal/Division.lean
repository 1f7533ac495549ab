import RecordScript.Decimal.Basic

/-!
# Division of decimals

Long division of the digits. It stops as soon as nothing is left over; otherwise it goes on to one
hundred significant digits and rounds the last of them, a half away from zero.
-/

namespace RecordScript.Decimal

/-- The number of significant digits after which a quotient is rounded. -/
def quotientDigits : Nat := 100

/-- The numerator moved up place by place until it is at least `den`, with the number of places. -/
def liftNumerator (num den : Nat) : Nat × Nat :=
  if _h : 0 < num ∧ num < den then
    let (lifted, places) := liftNumerator (num * 10) den
    (lifted, places + 1)
  else (num, 0)
termination_by den - num

/-- A quotient that is being developed: its digits so far, what is left over, and the number of
places it has been developed by. -/
structure PartialQuotient where
  quotient : Nat
  remainder : Nat
  places : Nat

/-- Develops a quotient by further places, as many as `fuel` and as long as something is left over.
-/
def developQuotient (den : Nat) : Nat → PartialQuotient → PartialQuotient
  | 0, q => q
  | fuel + 1, q =>
    if q.remainder = 0 then q
    else
      let next := q.remainder * 10
      developQuotient den fuel ⟨q.quotient * 10 + next / den, next % den, q.places + 1⟩

/-- The quotient with its last digit rounded by the digit that would follow. -/
def roundedQuotient (den : Nat) (q : PartialQuotient) : Nat :=
  if q.remainder ≠ 0 ∧ 5 ≤ q.remainder * 10 / den then q.quotient + 1 else q.quotient

/-- The quotient of two magnitudes, the second not zero, at a scale counted from `scale`. -/
def divMagnitudes (num den : Nat) (scale : Int) : Nat × Int :=
  let (lifted, places) := liftNumerator num den
  let first : PartialQuotient := ⟨lifted / den, lifted % den, places⟩
  let last := developQuotient den (quotientDigits - digitCount first.quotient) first
  (roundedQuotient den last, scale + last.places)

/-- The quotient by a number that is not zero. A zero dividend and a unit divisor leave the dividend
as it is, and equal digits give one. -/
def div (a b : Decimal) : Decimal :=
  if a.isZero || b.isUnit then a
  else
    let scale := a.scale - b.scale
    if a.digits = b.digits then ⟨1, scale⟩
    else
      let (magnitude, scale) := divMagnitudes a.digits.natAbs b.digits.natAbs scale
      ⟨a.digits.sign * b.digits.sign * magnitude, scale⟩

end RecordScript.Decimal
