import RecordScript.Proofs.Decimal.Division

/-!
# Decimals that are integers

A decimal is taken as an integer of 64 bits exactly if its value is one, at whatever scale it is
written. Without trailing zeros the scale decides whether the value is an integer, and an integer
that would have to be written with too many zeros is too large for a word.
-/

namespace RecordScript.Decimal

/-- Without its trailing zeros a number does not end in a zero. -/
theorem exists_eq_mul_pow_trailingZeros {fuel n : Nat} (hn : 0 < n) (h : n < 10 ^ fuel) :
    ∃ m, n = m * 10 ^ trailingZeros fuel n ∧ m % 10 ≠ 0 := by
  induction fuel generalizing n with
  | zero => omega
  | succ fuel ih =>
    rw [trailingZeros]
    split
    · rename_i hzero
      obtain ⟨m, hm, hlast⟩ := ih (n := n / 10) (by omega) (by rw [pow_succ] at h; omega)
      refine ⟨m, ?_, hlast⟩
      calc n = n / 10 * 10 := by omega
        _ = m * 10 ^ trailingZeros fuel (n / 10) * 10 := by rw [← hm]
        _ = m * 10 ^ (trailingZeros fuel (n / 10) + 1) := by rw [pow_succ]; ring
    · rename_i hlast
      exact ⟨n, by rw [pow_zero, mul_one], hlast⟩

/-- The normalized digits and the zeros that have been taken off them. -/
theorem exists_digits_eq {a : Decimal} (h : a.digits ≠ 0) :
    ∃ zeros : Nat, a.digits = a.normalize.digits * 10 ^ zeros ∧
      a.normalize.scale = a.scale - zeros ∧ ¬ (10 : Int) ∣ a.normalize.digits := by
  obtain ⟨m, hm, hlast⟩ := exists_eq_mul_pow_trailingZeros (Int.natAbs_pos.mpr h)
    (lt_pow_digitCount a.digits.natAbs)
  set zeros := trailingZeros (digitCount a.digits.natAbs) a.digits.natAbs with hzeros
  have hnormal : a.normalize = ⟨a.digits / 10 ^ zeros, a.scale - zeros⟩ := by
    rw [normalize, isZero, decide_eq_false h]
    rfl
  have hdvd : (10 : Int) ^ zeros ∣ a.digits := by
    rw [← Int.natAbs_dvd_natAbs, hm, Int.natAbs_pow]
    exact Nat.dvd_mul_left _ _
  have hdigits : a.digits = a.normalize.digits * 10 ^ zeros := by
    rw [hnormal, Int.ediv_mul_cancel hdvd]
  refine ⟨zeros, hdigits, by rw [hnormal], fun hten => hlast ?_⟩
  -- the digits that are left over are `m`, up to the sign
  have habs : m = a.normalize.digits.natAbs := by
    have h : m * 10 ^ zeros = a.normalize.digits.natAbs * 10 ^ zeros := by
      rw [← hm, hdigits, Int.natAbs_mul, Int.natAbs_pow]
      rfl
    exact Nat.eq_of_mul_eq_mul_right (Nat.pow_pos (by norm_num)) h
  have hmod := Int.natAbs_dvd_natAbs.mpr hten
  rw [← habs] at hmod
  exact Nat.mod_eq_zero_of_dvd hmod

@[simp]
theorem value_normalize (a : Decimal) : a.normalize.value = a.value := by
  by_cases h : a.digits = 0
  · have hnormal : a.normalize = ⟨0, 0⟩ := by simp [normalize, isZero, h]
    rw [hnormal, value_eq_zero_iff.mpr rfl, value_eq_zero_iff.mpr h]
  · obtain ⟨zeros, hdigits, hscale, -⟩ := exists_digits_eq h
    rw [value, value, hscale, hdigits, Int.cast_mul, mul_assoc, Int.cast_pow, Int.cast_ofNat,
      ← zpow_natCast, ← zpow_add₀ (by norm_num)]
    congr 2
    omega

/-- A decimal without places is an integer. -/
theorem value_of_scale_nonpos {a : Decimal} (h : a.scale ≤ 0) :
    a.value = (a.digits * Int.pow 10 (-a.scale).toNat : Int) := by
  have hvalue := digitsAt_mul_zpow h
  rw [neg_zero, zpow_zero, mul_one, digitsAt, zero_sub] at hvalue
  exact hvalue.symm

/-- A decimal with places that does not end in a zero is no integer. -/
theorem value_ne_intCast {a : Decimal} (hscale : 0 < a.scale) (h : ¬ (10 : Int) ∣ a.digits)
    (k : Int) : a.value ≠ k := by
  intro hk
  have hdigits : a.digits = k * 10 ^ a.scale.toNat := by
    have hpow : (10 : ℚ) ^ a.scale = ((10 ^ a.scale.toNat : Int) : ℚ) := by
      rw [Int.cast_pow, Int.cast_ofNat, ← zpow_natCast, Int.toNat_of_nonneg hscale.le]
    rw [value, zpow_neg, ← div_eq_mul_inv, div_eq_iff (zpow_pos (by norm_num) _).ne', hpow] at hk
    exact_mod_cast hk
  rw [hdigits] at h
  exact h ((dvd_pow_self 10 (by omega)).mul_left k)

theorem fitsWord_iff {n : Int} : fitsWord n = true ↔ -2 ^ 63 ≤ n ∧ n < 2 ^ 63 := by
  rw [fitsWord, decide_eq_true_iff]
  exact and_congr_right' (Int.lt_add_one_iff (b := 2 ^ 63 - 1)).symm

/-- Digits with too many zeros behind them do not fit a word. -/
theorem fitsWord_mul_pow_eq_false {n : Int} (hn : n ≠ 0) {shift : Nat} (h : shiftLimit < shift) :
    fitsWord (n * Int.pow 10 shift) = false := by
  have hpow : (0 : Int) < 10 ^ shift := pow_pos (by norm_num) shift
  have hlarge : (10 : Int) ^ 19 ≤ |n * 10 ^ shift| := by
    calc (10 : Int) ^ 19 ≤ 10 ^ shift := pow_le_pow_right₀ (by norm_num) h
      _ ≤ |n| * 10 ^ shift := le_mul_of_one_le_left hpow.le (Int.one_le_abs hn)
      _ = |n * 10 ^ shift| := by rw [abs_mul, abs_of_pos hpow]
  rw [← Bool.not_eq_true, fitsWord_iff, show Int.pow 10 shift = 10 ^ shift from rfl]
  rintro ⟨hleast, hmost⟩
  have hsmall : |n * 10 ^ shift| ≤ 2 ^ 63 := abs_le.mpr ⟨hleast, hmost.le⟩
  exact absurd (hlarge.trans hsmall) (by decide)

/-- A decimal is taken as an integer exactly if its value is this integer, and fits a word. -/
theorem toInteger?_eq_some_iff {a : Decimal} {k : Int} :
    a.toInteger? = some k ↔ a.value = k ∧ fitsWord k = true := by
  rw [← value_normalize, toInteger?]
  by_cases hscale : 0 < a.normalize.scale
  · simp only [hscale, if_true, reduceCtorEq, false_iff, not_and]
    intro hk
    have hne : a.digits ≠ 0 := by
      intro hzero
      simp [normalize, isZero, hzero] at hscale
    obtain ⟨-, -, -, hten⟩ := exists_digits_eq hne
    exact absurd hk (value_ne_intCast hscale hten k)
  · have hvalue := value_of_scale_nonpos (not_lt.mp hscale)
    simp only [hscale, if_false, hvalue, Int.cast_inj]
    split
    · rename_i hshift
      have hne : a.normalize.digits ≠ 0 := by
        intro hzero
        have hdigits : a.digits = 0 := value_eq_zero_iff.mp (by
          rw [← value_normalize, value_eq_zero_iff.mpr hzero])
        simp [normalize, isZero, hdigits] at hshift
      simp only [reduceCtorEq, false_iff, not_and, Bool.not_eq_true]
      rintro rfl
      exact fitsWord_mul_pow_eq_false hne hshift
    · split
      · rename_i hfits
        rw [Option.some_inj]
        exact ⟨fun hk => ⟨hk, hk ▸ hfits⟩, And.left⟩
      · rename_i hfits
        simp only [reduceCtorEq, false_iff, not_and]
        rintro rfl
        exact hfits

end RecordScript.Decimal
