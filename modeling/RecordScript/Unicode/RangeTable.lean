/-!
# Tables over code points

Properties of characters are given as sorted tables: closed ranges, runs of one value, or spans that
map characters at a fixed distance. All are searched by bisection.
-/

namespace RecordScript.Unicode

/-- The number of leading entries of a sorted table between two bounds whose key is at most `n`. -/
def rankBetween {α : Type} (key : α → Nat) (table : Array α) (n low high : Nat) : Nat :=
  if _h : low < high then
    let middle := (low + high) / 2
    match table[middle]? with
    | none => low
    | some entry =>
      if key entry ≤ n then rankBetween key table n (middle + 1) high
      else rankBetween key table n low middle
  else low
termination_by high - low

/-- The last entry of a sorted table whose key is at most `n`. -/
def lastUpTo {α : Type} (key : α → Nat) (table : Array α) (n : Nat) : Option α :=
  match rankBetween key table n 0 table.size with
  | 0 => none
  | rank + 1 => table[rank]?

/-- Whether a character lies in one of the sorted closed ranges. -/
def rangesContain (ranges : Array (Nat × Nat)) (c : Char) : Bool :=
  match lastUpTo Prod.fst ranges c.toNat with
  | some (_, last) => c.toNat ≤ last
  | none => false

/-- The value of the run that holds the code point `n`. -/
def valueInRuns {α : Type} (runs : Array (Nat × α)) (n : Nat) : Option α :=
  (lastUpTo Prod.fst runs n).map Prod.snd

/-- Characters from `first` to `last` in steps of `stride`, mapped to characters at the same
distance from `image` as they have from `first`. -/
structure CaseSpan where
  first : Nat
  last : Nat
  stride : Nat
  image : Nat

namespace CaseSpan

/-- The image of the code point `n`, if the span holds it. -/
def imageOf? (span : CaseSpan) (n : Nat) : Option Nat :=
  if span.first ≤ n ∧ n ≤ span.last ∧ (n - span.first) % span.stride = 0 then
    some (span.image + (n - span.first))
  else none

/-- The code point of the span whose image is `n`, if there is one. -/
def sourceOf? (span : CaseSpan) (n : Nat) : Option Nat :=
  if span.image ≤ n ∧ n - span.image ≤ span.last - span.first ∧
      (n - span.image) % span.stride = 0 then
    some (span.first + (n - span.image))
  else none

end CaseSpan

/-- The image of a character under sorted spans; a character outside all spans is its own image. -/
def mapThrough (spans : Array CaseSpan) (c : Char) : Char :=
  match (lastUpTo CaseSpan.first spans c.toNat).bind (·.imageOf? c.toNat) with
  | some n => Char.ofNat n
  | none => c

end RecordScript.Unicode
