import Mathlib.Data.Sign.Basic
import RecordScript.Proofs.Decimal.Value

/-!
# Remainders of decimals

The remainder is taken of the digits at the common scale of the two decimals, and its value is the
remainder of their values: what is left of the dividend when the divisor is taken off it a whole
number of times. It is smaller than the divisor and has the sign of the dividend.
-/

namespace RecordScript.Decimal

theorem value_rem (a b : Decimal) :
    (a.rem b).value = ((a.digitsAt (a.commonScale b)).tmod (b.digitsAt (a.commonScale b)) : Int) *
      (10 : ℚ) ^ (-a.commonScale b) := rfl

/-- The sign of a value is that of its digits, at whatever scale they are written. -/
theorem sign_mul_zpow {m n : Int} (h : m.sign = n.sign) (s : Int) :
    SignType.sign ((m : ℚ) * (10 : ℚ) ^ s) = SignType.sign ((n : ℚ) * (10 : ℚ) ^ s) := by
  rw [sign_mul, sign_mul]
  rcases lt_trichotomy n 0 with hn | rfl | hn
  · have hm : m < 0 := Int.sign_eq_neg_one_iff_neg.mp (h.trans (Int.sign_eq_neg_one_of_neg hn))
    rw [sign_neg (Int.cast_lt_zero.mpr hm), sign_neg (Int.cast_lt_zero.mpr hn)]
  · rw [Int.sign_eq_zero_iff_zero.mp (h.trans Int.sign_zero)]
  · have hm : 0 < m := Int.sign_eq_one_iff_pos.mp (h.trans (Int.sign_eq_one_of_pos hn))
    rw [sign_pos (Int.cast_pos.mpr hm), sign_pos (Int.cast_pos.mpr hn)]

/-- The divisor has been taken off the dividend a whole number of times. -/
theorem exists_value_sub_value_rem (a b : Decimal) :
    ∃ k : ℤ, a.value - (a.rem b).value = k * b.value := by
  obtain ⟨ha, hb⟩ := digitsAt_commonScale a b
  refine ⟨(a.digitsAt (a.commonScale b)).tdiv (b.digitsAt (a.commonScale b)), ?_⟩
  rw [value_rem, Int.tmod_def, Int.cast_sub, Int.cast_mul, sub_mul, ha, ← hb]
  ring

theorem abs_value_rem_lt {a b : Decimal} (hb : b.value ≠ 0) : |(a.rem b).value| < |b.value| := by
  obtain ⟨-, hvalue⟩ := digitsAt_commonScale a b
  have hdigits : b.digitsAt (a.commonScale b) ≠ 0 := by
    rintro h
    rw [h, Int.cast_zero, zero_mul] at hvalue
    exact hb hvalue.symm
  have hlt : |(a.digitsAt (a.commonScale b)).tmod (b.digitsAt (a.commonScale b))| <
      |b.digitsAt (a.commonScale b)| := by
    rw [Int.abs_eq_natAbs, Int.abs_eq_natAbs, Int.natAbs_tmod]
    exact_mod_cast Nat.mod_lt _ (Int.natAbs_pos.mpr hdigits)
  rw [value_rem, ← hvalue, abs_mul, abs_mul]
  exact mul_lt_mul_of_pos_right (by exact_mod_cast hlt) (abs_pos.mpr (ten_zpow_pos _).ne')

/-- A remainder that is not zero has the sign of the dividend. -/
theorem sign_value_rem {a b : Decimal} (h : (a.rem b).value ≠ 0) :
    SignType.sign (a.rem b).value = SignType.sign a.value := by
  obtain ⟨hvalue, -⟩ := digitsAt_commonScale a b
  have hne : (a.digitsAt (a.commonScale b)).tmod (b.digitsAt (a.commonScale b)) ≠ 0 :=
    mt (value_eq_zero_iff (a := a.rem b)).mpr h
  have hsign := Int.sign_tmod (a.digitsAt (a.commonScale b)) (b.digitsAt (a.commonScale b))
  rw [if_neg fun hdvd => hne (Int.tmod_eq_zero_of_dvd hdvd)] at hsign
  rw [value_rem, ← hvalue]
  exact sign_mul_zpow hsign _

end RecordScript.Decimal
