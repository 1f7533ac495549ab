import RecordScript.Proofs.Decimal.Reading
import RecordScript.Proofs.Text.Trim

/-!
# Positional notation

The text that a decimal is written as is a numeral without an exponent and without a plus sign. It
is read as the same decimal again, except that a negative scale is written out with zeros, and that
a scale beyond the limit is refused. The plain numerals, those without needless zeros in front, are
read and written again without a change.
-/

namespace RecordScript

/-- A numeral in positional notation: at most a minus sign, digits, and if there is a point, digits
behind it. -/
def Numeral.IsPositional (n : Numeral) : Prop :=
  n.sign ≠ .plus ∧ n.whole ≠ [] ∧ n.fraction ≠ some [] ∧ n.exponent = none

namespace Decimal

open Numeral

/-- The digits of a decimal with zeros in front of them, so that a digit is left in front of the
point. -/
def paddedDigits (a : Decimal) : List Char :=
  List.replicate (a.scale.toNat + 1 - (Nat.toDigits 10 a.digits.natAbs).length) '0' ++
    Nat.toDigits 10 a.digits.natAbs

theorem isDigit_of_mem_paddedDigits {a : Decimal} {c : Char} (h : c ∈ a.paddedDigits) :
    c.isDigit = true := by
  rcases List.mem_append.mp h with h | h
  · rw [(List.mem_replicate.mp h).2]
    rfl
  · exact Nat.isDigit_of_mem_toDigits (by decide) (by decide) h

theorem lt_length_paddedDigits (a : Decimal) : a.scale.toNat < a.paddedDigits.length := by
  rw [paddedDigits, List.length_append, List.length_replicate]
  omega

theorem wholeValue_paddedDigits (a : Decimal) : wholeValue a.paddedDigits = a.digits.natAbs := by
  rw [paddedDigits, wholeValue_replicate_append, wholeValue_toDigits]

/-- The digits of the positional notation in front of the point. -/
def wholeDigits (a : Decimal) : List Char :=
  if a.scale < 0 then
    Nat.toDigits 10 a.digits.natAbs ++
      if a.isZero then [] else List.replicate a.scale.natAbs '0'
  else a.paddedDigits.take (a.paddedDigits.length - a.scale.toNat)

/-- The digits of the positional notation behind the point, if it has one. -/
def placeDigits (a : Decimal) : Option (List Char) :=
  if a.scale ≤ 0 then none
  else some (a.paddedDigits.drop (a.paddedDigits.length - a.scale.toNat))

theorem plainMagnitude_eq (a : Decimal) :
    a.plainMagnitude = a.wholeDigits ++ pointed a.placeDigits := by
  rw [plainMagnitude, wholeDigits, placeDigits]
  rcases lt_trichotomy a.scale 0 with h | h | h
  · by_cases hzero : a.isZero = true <;> simp [h, h.le, pointed, hzero]
  · have hpad : 1 - (Nat.toDigits 10 a.digits.natAbs).length = 0 := by
      have := Nat.length_toDigits_pos (b := 10) (n := a.digits.natAbs)
      omega
    simp [h, pointed, paddedDigits, hpad]
  · rw [if_neg (by omega), if_neg (by omega), if_neg (by omega), if_neg (by omega)]
    simp [pointed, insertPoint, paddedDigits]

theorem isDigit_of_mem_wholeDigits {a : Decimal} {c : Char} (h : c ∈ a.wholeDigits) :
    c.isDigit = true := by
  rw [wholeDigits] at h
  split at h
  · rcases List.mem_append.mp h with h | h
    · exact Nat.isDigit_of_mem_toDigits (by decide) (by decide) h
    · split at h
      · cases h
      · rw [(List.mem_replicate.mp h).2]
        rfl
  · exact isDigit_of_mem_paddedDigits (List.mem_of_mem_take h)

theorem isDigit_of_mem_placeDigits {a : Decimal} {c : Char} (h : c ∈ a.placeDigits.getD []) :
    c.isDigit = true := by
  rw [placeDigits] at h
  split at h
  · cases h
  · exact isDigit_of_mem_paddedDigits (List.mem_of_mem_drop h)

theorem wholeDigits_ne_nil (a : Decimal) : a.wholeDigits ≠ [] := by
  rw [wholeDigits]
  split
  · exact List.append_ne_nil_of_left_ne_nil Nat.toDigits_ne_nil _
  · have := a.lt_length_paddedDigits
    rw [← List.length_pos_iff, List.length_take]
    omega

theorem length_placeDigits (a : Decimal) : (a.placeDigits.getD []).length = a.scale.toNat := by
  have := a.lt_length_paddedDigits
  rw [placeDigits]
  split
  · rw [Option.getD_none, List.length_nil]
    omega
  · rw [Option.getD_some, List.length_drop]
    omega

/-- All digits of the positional notation denote the digits of the decimal, brought to a scale that
is not negative. -/
theorem wholeValue_digits (a : Decimal) :
    (wholeValue (a.wholeDigits ++ a.placeDigits.getD []) : Int) =
      a.digits.natAbs * 10 ^ (max a.scale 0 - a.scale).toNat := by
  rw [wholeDigits, placeDigits]
  by_cases h : a.scale < 0
  · have hscale : (max a.scale 0 - a.scale).toNat = a.scale.natAbs := by omega
    rw [if_pos h, if_pos h.le, Option.getD_none, List.append_nil, hscale, wholeValue_append,
      wholeValue_toDigits]
    by_cases hzero : a.isZero = true
    · have hdigits : a.digits = 0 := of_decide_eq_true hzero
      simp [hdigits, hzero, wholeValue]
    · have hreplicate := wholeValue_replicate_append a.scale.natAbs []
      rw [List.append_nil] at hreplicate
      rw [if_neg hzero, hreplicate, List.length_replicate]
      simp [wholeValue]
  · have hscale : (max a.scale 0 - a.scale).toNat = 0 := by omega
    rw [if_neg h, hscale, pow_zero, mul_one]
    by_cases hzero : a.scale ≤ 0
    · have hnat : a.scale.toNat = 0 := by omega
      rw [if_pos hzero, Option.getD_none, List.append_nil, hnat, Nat.sub_zero, List.take_length,
        wholeValue_paddedDigits]
    · rw [if_neg hzero, Option.getD_some, List.take_append_drop, wholeValue_paddedDigits]

/-- The numeral that a decimal is written as. -/
def toNumeral (a : Decimal) : Numeral where
  sign := if a.digits < 0 then .minus else .none
  whole := a.wholeDigits
  fraction := a.placeDigits
  exponent := none
  whole_isDigit _ := isDigit_of_mem_wholeDigits
  fraction_isDigit _ := isDigit_of_mem_placeDigits
  ne_nil := List.append_ne_nil_of_left_ne_nil a.wholeDigits_ne_nil _

theorem chars_toNumeral (a : Decimal) : a.toNumeral.chars = a.format.toList := by
  rw [format, String.toList_ofList, plainMagnitude_eq, chars, toNumeral]
  split <;> simp [Sign.chars, suffix]

/-- The decimal with its digits brought to a scale that is not negative. -/
def positional (a : Decimal) : Decimal := ⟨a.digitsAt (max a.scale 0), max a.scale 0⟩

theorem positional_of_nonneg {a : Decimal} (h : 0 ≤ a.scale) : a.positional = a := by
  rw [positional, digitsAt, max_eq_left h, sub_self]
  exact congrArg₂ Decimal.mk (Int.mul_one _) rfl

@[simp]
theorem value_positional (a : Decimal) : a.positional.value = a.value :=
  digitsAt_mul_zpow (le_max_left _ _)

theorem decimal_toNumeral (a : Decimal) : a.toNumeral.decimal = a.positional := by
  have hsign : (if a.digits < 0 then Sign.minus else Sign.none).factor * (a.digits.natAbs : Int) =
      a.digits := by
    split <;> simp only [Sign.factor] <;> omega
  refine congrArg₂ Decimal.mk ?_ ?_
  · calc a.toNumeral.sign.factor * (wholeValue (a.wholeDigits ++ a.placeDigits.getD []) : Int)
        = a.toNumeral.sign.factor * (a.digits.natAbs : Int) *
            10 ^ (max a.scale 0 - a.scale).toNat := by rw [wholeValue_digits, mul_assoc]
      _ = a.digits * 10 ^ (max a.scale 0 - a.scale).toNat := congrArg (· * _) hsign
  · rw [Numeral.scale, places, toNumeral, length_placeDigits, power, Option.elim_none, sub_zero]
    omega

theorem isWhiteSpace_of_mem_chars {n : Numeral} {c : Char} (h : c ∈ n.chars) :
    Unicode.isWhiteSpace c = false := by
  rcases mem_chars h with hdigit | rfl | rfl | rfl | rfl | rfl
  · have hc : 48 ≤ c.toNat ∧ c.toNat ≤ 57 := Char.isDigit_iff_toNat.mp hdigit
    exact Unicode.isWhiteSpace_eq_false (by omega) (by omega)
  all_goals exact Unicode.isWhiteSpace_eq_false (by decide) (by decide)

/-- A numeral alone is read as the decimal that it stands for, within the limit. -/
theorem parse_of_toList {text : String} {n : Numeral} (h : text.toList = n.chars) :
    parse text = if n.scale.natAbs ≤ scaleLimit then some n.decimal else none := by
  refine parse_of_chars ?_
  rw [Text.trim_eq_self fun c hc => isWhiteSpace_of_mem_chars (h ▸ hc), h]

/-- What is written as a number is read back with the scale that it is written at. -/
theorem parse_format_eq (a : Decimal) :
    parse a.format = if a.scale ≤ scaleLimit then some a.positional else none := by
  have hscale : a.toNumeral.scale = max a.scale 0 := congrArg Decimal.scale a.decimal_toNumeral
  rw [parse_of_toList a.chars_toNumeral.symm, decimal_toNumeral, hscale]
  refine if_congr ?_ rfl rfl
  have : 0 < (scaleLimit : Int) := by decide
  omega

theorem isPositional_toNumeral (a : Decimal) : a.toNumeral.IsPositional := by
  refine ⟨?_, a.wholeDigits_ne_nil, fun h => ?_, rfl⟩
  · rw [toNumeral]
    split <;> simp
  · have hnone : a.placeDigits = some [] := h
    have hlength := a.length_placeDigits
    rw [hnone, Option.getD_some, List.length_nil] at hlength
    rw [placeDigits, if_pos (by omega)] at hnone
    cases hnone

theorem value_toNumeral (a : Decimal) : a.toNumeral.value = a.value := by
  rw [← value_decimal, decimal_toNumeral, value_positional]

/-! ### Plain numerals -/

/-- Zeros in front of the digits of a number give back the digits that it was read from. -/
theorem replicate_append_toDigits {ds : List Char} (h : ∀ c ∈ ds, c.isDigit = true)
    (hne : ds ≠ []) :
    List.replicate (ds.length - (Nat.toDigits 10 (wholeValue ds)).length) '0' ++
      Nat.toDigits 10 (wholeValue ds) = ds := by
  induction ds with
  | nil => exact absurd rfl hne
  | cons d ds ih =>
    by_cases hd : d = '0'
    · subst hd
      have hvalue : wholeValue ('0' :: ds) = wholeValue ds := wholeValue_replicate_append 1 ds
      rw [hvalue]
      -- The zero is none of the digits of the number, but one of those to be put in front.
      rcases ds with _ | ⟨e, es⟩
      · rfl
      · have hrest := ih (List.forall_mem_cons.mp h).2 (by simp)
        have hlength := congrArg List.length hrest
        rw [List.length_append, List.length_replicate] at hlength
        have hone : ('0' :: e :: es).length -
            (Nat.toDigits 10 (wholeValue (e :: es))).length =
            (e :: es).length - (Nat.toDigits 10 (wholeValue (e :: es))).length + 1 := by
          rw [List.length_cons]
          omega
        rw [hone, List.replicate_succ, List.cons_append, hrest]
    · rw [toDigits_wholeValue h hd, Nat.sub_self, List.replicate_zero, List.nil_append]

end Decimal

/-- A numeral as amounts are usually written: a minus sign only before a number that is not zero, no
needless zero in front, a digit on either side of the point, and no exponent. -/
structure Numeral.IsPlain (n : Numeral) : Prop where
  sign : n.sign ≠ .plus
  sign_minus : n.sign = .minus → n.value ≠ 0
  whole : n.whole = ['0'] ∨ ∃ d ds, n.whole = d :: ds ∧ d ≠ '0'
  fraction : n.fraction ≠ some []
  exponent : n.exponent = none

namespace Numeral.IsPlain

open Decimal

variable {n : Numeral}

theorem scale_decimal (h : n.IsPlain) : n.decimal.scale = n.places.length := by
  rw [decimal, Numeral.scale, h.exponent, power, Option.elim_none, sub_zero]

theorem paddedDigits_decimal (h : n.IsPlain) : n.decimal.paddedDigits = n.whole ++ n.places := by
  have hdigit : ∀ c ∈ n.whole ++ n.places, c.isDigit = true := fun c hc =>
    (List.mem_append.mp hc).elim (n.whole_isDigit c) (n.fraction_isDigit c)
  have habs : n.decimal.digits.natAbs = wholeValue (n.whole ++ n.places) := by
    rw [decimal]
    cases n.sign <;> simp [Sign.factor]
  rw [paddedDigits, habs, h.scale_decimal, Int.toNat_natCast]
  rcases h.whole with hwhole | ⟨d, ds, hwhole, hd⟩
  · have hlength : n.places.length + 1 = (n.whole ++ n.places).length := by simp [hwhole]
    rw [hlength]
    exact replicate_append_toDigits hdigit n.ne_nil
  · rw [hwhole, List.cons_append] at hdigit ⊢
    rw [toDigits_wholeValue hdigit hd]
    simp

/-- A plain numeral is how the decimal that it stands for is written. -/
theorem chars_decimal (h : n.IsPlain) : n.decimal.format.toList = n.chars := by
  have hscale := h.scale_decimal
  have hlength : (n.whole ++ n.places).length - n.places.length = n.whole.length := by simp
  have hwhole : n.decimal.wholeDigits = n.whole := by
    rw [wholeDigits, if_neg (by omega), h.paddedDigits_decimal, hscale, Int.toNat_natCast, hlength,
      List.take_left]
  have hplaces : n.decimal.placeDigits = n.fraction := by
    rw [placeDigits, h.paddedDigits_decimal, hscale, Int.toNat_natCast, hlength, List.drop_left]
    have hfraction := h.fraction
    rcases hf : n.fraction with _ | _ | ⟨d, ds⟩
    · simp [places, hf]
    · exact absurd hf hfraction
    · simp [places, hf]
  have hsign : (if n.decimal.digits < 0 then Sign.minus else Sign.none) = n.sign := by
    have hzero : n.sign = .minus → n.decimal.digits ≠ 0 := fun hminus hdigits =>
      h.sign_minus hminus (by rw [← n.value_decimal, value_eq_zero_iff, hdigits])
    cases hs : n.sign with
    | plus => exact absurd hs h.sign
    | none =>
      have hdigits : n.decimal.digits = 1 * wholeValue (n.whole ++ n.places) := by
        rw [decimal, hs, Sign.factor]
      exact if_neg (by omega)
    | minus =>
      have hne := hzero hs
      have hdigits : n.decimal.digits = -1 * wholeValue (n.whole ++ n.places) := by
        rw [decimal, hs, Sign.factor]
      exact if_pos (by omega)
  calc n.decimal.format.toList
      = n.decimal.toNumeral.chars := (chars_toNumeral _).symm
    _ = (if n.decimal.digits < 0 then Sign.minus else Sign.none).chars ++
          (n.decimal.wholeDigits ++ pointed n.decimal.placeDigits) ++ suffix none := rfl
    _ = n.chars := by rw [hsign, hwhole, hplaces, chars, h.exponent]

end Numeral.IsPlain

end RecordScript
