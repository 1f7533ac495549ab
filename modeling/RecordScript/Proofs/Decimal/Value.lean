import Mathlib.Algebra.Order.Field.Power
import Mathlib.Algebra.Order.Ring.Rat
import Mathlib.Tactic.FieldSimp
import Mathlib.Tactic.Ring
import RecordScript.Decimal.Basic

/-!
# Values of decimals

The rational number that a decimal stands for. Sums, differences, products and negated numbers stand
for exactly what they should, at whatever scales their operands are written, and the order of two
decimals is that of their values.
-/

namespace RecordScript.Decimal

/-- The rational number that a decimal stands for. -/
def value (a : Decimal) : ℚ := a.digits * (10 : ℚ) ^ (-a.scale)

theorem ten_zpow_pos (s : Int) : (0 : ℚ) < (10 : ℚ) ^ s := zpow_pos (by norm_num) s

theorem value_eq_zero_iff {a : Decimal} : a.value = 0 ↔ a.digits = 0 := by
  rw [value, mul_eq_zero, or_iff_left (ten_zpow_pos _).ne', Int.cast_eq_zero]

theorem isZero_iff {a : Decimal} : a.isZero = true ↔ a.value = 0 := by
  rw [value_eq_zero_iff, isZero, decide_eq_true_iff]

/-- A decimal written at a larger scale has more digits and the same value. -/
theorem digitsAt_mul_zpow {a : Decimal} {s : Int} (h : a.scale ≤ s) :
    (a.digitsAt s : ℚ) * (10 : ℚ) ^ (-s) = a.value := by
  have hpow : ((Int.pow 10 (s - a.scale).toNat : Int) : ℚ) = (10 : ℚ) ^ (s - a.scale) := by
    calc ((Int.pow 10 (s - a.scale).toNat : Int) : ℚ)
        = (((10 : Int) ^ (s - a.scale).toNat : Int) : ℚ) := rfl
      _ = (10 : ℚ) ^ (((s - a.scale).toNat : Nat) : Int) := by push_cast; rw [zpow_natCast]
      _ = (10 : ℚ) ^ (s - a.scale) := by rw [Int.toNat_of_nonneg (by omega)]
  rw [digitsAt, Int.cast_mul, hpow, mul_assoc, ← zpow_add₀ (by norm_num), value]
  congr 2
  omega

/-- Two decimals written at their common scale. -/
theorem digitsAt_commonScale (a b : Decimal) :
    (a.digitsAt (a.commonScale b) : ℚ) * (10 : ℚ) ^ (-a.commonScale b) = a.value ∧
      (b.digitsAt (a.commonScale b) : ℚ) * (10 : ℚ) ^ (-a.commonScale b) = b.value :=
  ⟨digitsAt_mul_zpow (le_max_left _ _), digitsAt_mul_zpow (le_max_right _ _)⟩

@[simp]
theorem value_neg (a : Decimal) : a.neg.value = -a.value := by
  simp [value, neg]

@[simp]
theorem value_add (a b : Decimal) : (a.add b).value = a.value + b.value := by
  obtain ⟨ha, hb⟩ := digitsAt_commonScale a b
  rw [add, value, Int.cast_add, add_mul, ha, hb]

@[simp]
theorem value_sub (a b : Decimal) : (a.sub b).value = a.value - b.value := by
  rw [sub]
  split
  · rename_i hb
    rw [isZero_iff.mp hb, sub_zero]
  · split
    · rename_i ha
      rw [isZero_iff.mp ha, value_neg, zero_sub]
    · obtain ⟨ha, hb⟩ := digitsAt_commonScale a b
      rw [value, Int.cast_sub, sub_mul, ha, hb]

/-- What is recognised as the unit of products is one. -/
theorem value_of_isUnit {a : Decimal} (h : a.isUnit = true) : a.value = 1 := by
  rw [isUnit, decide_eq_true_iff] at h
  obtain ⟨hscale, -, hdigits⟩ := h
  have hsame : a.digits = (⟨1, 0⟩ : Decimal).digitsAt a.scale := by
    rw [hdigits, digitsAt, one_mul, sub_zero]
  have h := digitsAt_mul_zpow (a := ⟨1, 0⟩) (s := a.scale) hscale
  rw [value, hsame, h]
  simp [value]

@[simp]
theorem value_mul (a b : Decimal) : (a.mul b).value = a.value * b.value := by
  rw [mul]
  split
  · rename_i ha
    rw [value_of_isUnit ha, one_mul]
  · split
    · rename_i hb
      rw [value_of_isUnit hb, mul_one]
    · rw [value, value, value, neg_add, zpow_add₀ (by norm_num), Int.cast_mul]
      ring

/-- Decimals are compared by their values. -/
theorem compare_eq_eq_iff {a b : Decimal} : a.compare b = .eq ↔ a.value = b.value := by
  obtain ⟨ha, hb⟩ := digitsAt_commonScale a b
  rw [compare, Std.compare_eq_iff_eq, ← ha, ← hb, mul_left_inj' (ten_zpow_pos _).ne', Int.cast_inj]

theorem compare_eq_lt_iff {a b : Decimal} : a.compare b = .lt ↔ a.value < b.value := by
  obtain ⟨ha, hb⟩ := digitsAt_commonScale a b
  rw [compare, Int.compare_eq_lt, ← ha, ← hb, mul_lt_mul_iff_left₀ (ten_zpow_pos _), Int.cast_lt]

theorem compare_swap (a b : Decimal) : (a.compare b).swap = b.compare a := by
  rw [compare, compare, commonScale, commonScale, max_comm b.scale]
  exact Std.OrientedCmp.eq_swap.symm

end RecordScript.Decimal
