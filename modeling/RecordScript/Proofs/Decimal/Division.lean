import RecordScript.Decimal.Division
import RecordScript.Proofs.Decimal.Value

/-!
# Quotients

Long division gives exact quotients as long as one hundred significant digits are enough for them.
It is exact beyond that only where nothing has to be developed: where the digits of the divisor
divide those of the dividend, and where the divisor is recognised as one. In all other cases the
quotient is rounded, and its value is wrong, also where the quotient has an end.
-/

namespace RecordScript.Decimal

/-! ### Digits of a natural number -/

theorem digitCount_pos (n : Nat) : 0 < digitCount n := Nat.length_toDigits_pos

theorem digitCount_le_iff {n k : Nat} (hk : 0 < k) : digitCount n ≤ k ↔ n < 10 ^ k :=
  Nat.length_toDigits_le_iff (by decide) hk

theorem lt_pow_digitCount (n : Nat) : n < 10 ^ digitCount n :=
  (digitCount_le_iff (digitCount_pos n)).mp le_rfl

theorem pow_le_of_digitCount {n k : Nat} (hn : 0 < n) (h : k < digitCount n) : 10 ^ k ≤ n := by
  rcases Nat.eq_zero_or_pos k with rfl | hk
  · exact hn
  · by_contra hlt
    exact absurd ((digitCount_le_iff hk).mpr (Nat.lt_of_not_le hlt)) (Nat.not_le_of_lt h)

/-! ### Long division -/

/-- The numerator is moved up until the quotient has a digit, and no further. -/
theorem liftNumerator_eq {num : Nat} (den : Nat) (hnum : 0 < num) :
    (liftNumerator num den).1 = num * 10 ^ (liftNumerator num den).2 ∧
      den ≤ (liftNumerator num den).1 ∧
      ((liftNumerator num den).2 = 0 ∨ (liftNumerator num den).1 < 10 * den) := by
  fun_induction liftNumerator num den with
  | case1 num h lifted places heq ih =>
    obtain ⟨hlifted, hle, hlt⟩ := ih (by omega)
    rw [heq] at hlifted hle hlt
    refine ⟨by rw [hlifted, pow_succ]; ring, hle, .inr ?_⟩
    rcases hlt with rfl | hlt
    · simp only [pow_zero] at hlifted
      omega
    · exact hlt
  | case2 num h => exact ⟨by simp, by omega, .inl rfl⟩

/-- The development of a quotient ends where nothing is left over, or after all its steps. -/
theorem developQuotient_eq {den : Nat} (fuel : Nat) {q : PartialQuotient} (h : q.remainder < den) :
    ∃ steps ≤ fuel, (developQuotient den fuel q).places = q.places + steps ∧
      (developQuotient den fuel q).quotient * den + (developQuotient den fuel q).remainder =
        (q.quotient * den + q.remainder) * 10 ^ steps ∧
      (developQuotient den fuel q).remainder < den ∧
      ((developQuotient den fuel q).remainder = 0 ∨ steps = fuel) := by
  fun_induction developQuotient den fuel q with
  | case1 q => exact ⟨0, le_rfl, rfl, by simp, h, .inr rfl⟩
  | case2 fuel q hzero => exact ⟨0, Nat.zero_le _, rfl, by simp, h, .inl hzero⟩
  | case3 fuel q hzero next ih =>
    obtain ⟨steps, hsteps, hplaces, hsum, hrem, hend⟩ := ih (Nat.mod_lt _ (by omega))
    refine ⟨steps + 1, by omega, by rw [hplaces]; simp only; omega, ?_, hrem,
      hend.imp_right (by omega)⟩
    -- One place more: the invariant moves by a factor of ten.
    have hnext : (q.quotient * 10 + next / den) * den + next % den =
        (q.quotient * den + q.remainder) * 10 := by
      calc (q.quotient * 10 + next / den) * den + next % den
          = q.quotient * 10 * den + (den * (next / den) + next % den) := by ring
        _ = q.quotient * 10 * den + next := by rw [Nat.div_add_mod]
        _ = (q.quotient * den + q.remainder) * 10 := by simp only [next]; ring
    rw [hsum, hnext, pow_succ]
    ring

/-- The quotient of two natural numbers as it is developed. -/
def longDivision (num den : Nat) : PartialQuotient :=
  developQuotient den (quotientDigits - digitCount ((liftNumerator num den).1 / den))
    ⟨(liftNumerator num den).1 / den, (liftNumerator num den).1 % den, (liftNumerator num den).2⟩

theorem divMagnitudes_eq (num den : Nat) (scale : Int) :
    divMagnitudes num den scale =
      (roundedQuotient den (longDivision num den), scale + (longDivision num den).places) := rfl

section LongDivision

variable {num den : Nat}

/-- What has been developed and what is left over make up the dividend. -/
theorem longDivision_add_remainder (hnum : 0 < num) (hden : 0 < den) :
    (longDivision num den).quotient * den + (longDivision num den).remainder =
        num * 10 ^ (longDivision num den).places ∧
      (longDivision num den).remainder < den := by
  obtain ⟨hlifted, -, -⟩ := liftNumerator_eq den hnum
  obtain ⟨steps, -, hplaces, hsum, hrem, -⟩ := developQuotient_eq
    (quotientDigits - digitCount ((liftNumerator num den).1 / den))
    (q := ⟨_, _, (liftNumerator num den).2⟩) (Nat.mod_lt (liftNumerator num den).1 hden)
  refine ⟨?_, hrem⟩
  rw [longDivision, hsum, hplaces, Nat.mul_comm _ den, Nat.div_add_mod]
  calc (liftNumerator num den).1 * 10 ^ steps
      = num * 10 ^ (liftNumerator num den).2 * 10 ^ steps := by rw [← hlifted]
    _ = num * 10 ^ ((liftNumerator num den).2 + steps) := by rw [pow_add]; ring

/-- Nothing is left over exactly if nothing would be left over after all steps. -/
theorem remainder_longDivision_iff_dvd (hden : 0 < den) :
    (longDivision num den).remainder = 0 ↔ den ∣ (liftNumerator num den).1 *
      10 ^ (quotientDigits - digitCount ((liftNumerator num den).1 / den)) := by
  obtain ⟨steps, hsteps, -, hsum, hrem, hend⟩ := developQuotient_eq
    (quotientDigits - digitCount ((liftNumerator num den).1 / den))
    (q := ⟨_, _, (liftNumerator num den).2⟩) (Nat.mod_lt (liftNumerator num den).1 hden)
  rw [Nat.mul_comm _ den, Nat.mul_comm _ den, Nat.div_add_mod] at hsum
  constructor
  · intro hzero
    rw [longDivision] at hzero
    rw [hzero, Nat.add_zero] at hsum
    exact (Dvd.intro _ hsum).trans (Nat.mul_dvd_mul_left _ (Nat.pow_dvd_pow 10 hsteps))
  · intro hdvd
    rcases hend with hzero | rfl
    · exact hzero
    · have hrest := (Nat.dvd_add_right (Nat.dvd_mul_right den _)).mp (hsum ▸ hdvd)
      exact Nat.eq_zero_of_dvd_of_lt hrest hrem

end LongDivision

/-- The number has at most as many significant digits as quotients are developed to. -/
def HasFewDigits (q : ℚ) : Prop :=
  ∃ m e : Int, |m| < 10 ^ quotientDigits ∧ q = m * (10 : ℚ) ^ e

section FewDigits

variable {num den : Nat}

/-- A quotient that comes out within the digits that are developed has few digits, or it is an
integer that needs no development. -/
theorem hasFewDigits_of_dvd (hnum : 0 < num) (hden : 0 < den)
    (h : den ∣ (liftNumerator num den).1 *
      10 ^ (quotientDigits - digitCount ((liftNumerator num den).1 / den))) :
    den ∣ num ∨ HasFewDigits ((num : ℚ) / den) := by
  obtain ⟨hlifted, -, hlift⟩ := liftNumerator_eq den hnum
  set lifted := (liftNumerator num den).1
  set places := (liftNumerator num den).2
  have hdigits := lt_pow_digitCount (lifted / den)
  set count := digitCount (lifted / den)
  by_cases hcount : count ≤ quotientDigits
  · obtain ⟨q, hq⟩ := h
    have hfew : q < 10 ^ quotientDigits := by
      refine Nat.lt_of_mul_lt_mul_left (a := den) ?_
      calc den * q = lifted * 10 ^ (quotientDigits - count) := hq.symm
        _ < den * 10 ^ count * 10 ^ (quotientDigits - count) := by
            refine Nat.mul_lt_mul_of_pos_right ?_ (Nat.pow_pos (by decide))
            exact ((Nat.div_lt_iff_lt_mul hden).mp hdigits).trans_eq (Nat.mul_comm _ _)
        _ = den * 10 ^ quotientDigits := by rw [mul_assoc, ← pow_add, Nat.add_sub_cancel' hcount]
    refine .inr ⟨q, -((places + (quotientDigits - count) : Nat) : Int), ?_, ?_⟩
    · rw [Nat.abs_cast]
      exact_mod_cast hfew
    · have hcast : (num : ℚ) * 10 ^ (places + (quotientDigits - count)) = den * q := by
        rw [pow_add, ← mul_assoc]
        exact_mod_cast hlifted ▸ hq
      have hne : (den : ℚ) ≠ 0 := Nat.cast_ne_zero.mpr hden.ne'
      rw [zpow_neg, zpow_natCast, div_eq_iff hne, Int.cast_natCast]
      field_simp
      rw [hcast, mul_comm]
  · -- There are already too many digits in front of the point, so nothing was moved up.
    have hplaces : places = 0 := by
      rcases hlift with h | h
      · exact h
      · have hone : lifted / den < 10 := (Nat.div_lt_iff_lt_mul hden).mpr h
        have : count ≤ 1 := (digitCount_le_iff (by decide)).mpr (by simpa)
        have : 1 ≤ quotientDigits := by decide
        omega
    rw [hplaces, pow_zero, mul_one] at hlifted
    rw [Nat.sub_eq_zero_of_le (by omega), pow_zero, mul_one, hlifted] at h
    exact .inl h

/-- The quotient developed to its last digit is not smaller than the least number of so many digits:
its first digit is not zero. -/
theorem pow_le_lifted_mul_pow (hnum : 0 < num) (hden : 0 < den) :
    den * 10 ^ (quotientDigits - 1) ≤ (liftNumerator num den).1 *
      10 ^ (quotientDigits - digitCount ((liftNumerator num den).1 / den)) := by
  obtain ⟨-, hle, -⟩ := liftNumerator_eq den hnum
  set lifted := (liftNumerator num den).1
  set count := digitCount (lifted / den)
  have hcount : 0 < count := digitCount_pos _
  have hfirst : 10 ^ (count - 1) ≤ lifted / den :=
    pow_le_of_digitCount (Nat.div_pos hle hden) (by omega)
  calc den * 10 ^ (quotientDigits - 1)
      ≤ den * 10 ^ (count - 1 + (quotientDigits - count)) :=
        Nat.mul_le_mul_left _ (Nat.pow_le_pow_right (by decide) (by omega))
    _ = 10 ^ (count - 1) * den * 10 ^ (quotientDigits - count) := by
        rw [pow_add]
        ring
    _ ≤ lifted / den * den * 10 ^ (quotientDigits - count) :=
        Nat.mul_le_mul_right _ (Nat.mul_le_mul_right _ hfirst)
    _ ≤ lifted * 10 ^ (quotientDigits - count) :=
        Nat.mul_le_mul_right _ (Nat.div_mul_le_self _ _)

/-- Few digits with a point among them are less than the least number of so many digits. -/
theorem mul_zpow_lt_of_neg {m k : Int} (hm : |m| < 10 ^ quotientDigits) (hk : k < 0) :
    (m : ℚ) * 10 ^ k < 10 ^ (quotientDigits - 1) := by
  have hlt : (m : ℚ) < 10 ^ quotientDigits := by exact_mod_cast (le_abs_self m).trans_lt hm
  have htenth : (10 : ℚ) ^ k ≤ 10 ^ (-1 : Int) := zpow_le_zpow_right₀ (by norm_num) (by omega)
  have hdigits : quotientDigits = quotientDigits - 1 + 1 := rfl
  calc (m : ℚ) * 10 ^ k
      < 10 ^ quotientDigits * 10 ^ k := mul_lt_mul_of_pos_right hlt (ten_zpow_pos k)
    _ ≤ 10 ^ quotientDigits * 10 ^ (-1 : Int) :=
        mul_le_mul_of_nonneg_left htenth (pow_nonneg (by norm_num) _)
    _ = 10 ^ (quotientDigits - 1) := by
        rw [hdigits, pow_succ, Nat.add_sub_cancel, zpow_neg_one, mul_assoc,
          mul_inv_cancel₀ (by norm_num), mul_one]

/-- A quotient with few digits comes out within the digits that are developed. -/
theorem dvd_of_hasFewDigits (hnum : 0 < num) (hden : 0 < den)
    (h : HasFewDigits ((num : ℚ) / den)) :
    den ∣ (liftNumerator num den).1 *
      10 ^ (quotientDigits - digitCount ((liftNumerator num den).1 / den)) := by
  obtain ⟨hlifted, -, -⟩ := liftNumerator_eq den hnum
  have hlarge := pow_le_lifted_mul_pow hnum hden
  set lifted := (liftNumerator num den).1
  set places := (liftNumerator num den).2
  set rest := quotientDigits - digitCount (lifted / den)
  have hpos : (0 : ℚ) < den := Nat.cast_pos.mpr hden
  obtain ⟨m, e, hm, heq⟩ := h
  have hscaled : (lifted : ℚ) * 10 ^ rest = den * (m * (10 : ℚ) ^ (e + (places + rest : Nat))) := by
    rw [hlifted, zpow_add₀ (by norm_num), ← mul_assoc (m : ℚ), ← heq, zpow_natCast, pow_add]
    push_cast
    field_simp
  rcases lt_or_ge (e + (places + rest : Nat)) 0 with hneg | hnonneg
  · -- Then a digit would be left behind the last one, and the quotient would be too small.
    have hle : (10 : ℚ) ^ (quotientDigits - 1) ≤ m * (10 : ℚ) ^ (e + (places + rest : Nat)) := by
      rw [← mul_le_mul_iff_of_pos_left hpos, ← hscaled]
      exact_mod_cast hlarge
    exact absurd hle (not_le_of_gt (mul_zpow_lt_of_neg hm hneg))
  · obtain ⟨k, hk⟩ := Int.eq_ofNat_of_zero_le hnonneg
    rw [hk, zpow_natCast] at hscaled
    have hint : ((lifted * 10 ^ rest : Nat) : Int) = den * (m * 10 ^ k) := by exact_mod_cast hscaled
    exact Int.natCast_dvd_natCast.mp (Dvd.intro _ hint.symm)

/-- Nothing is left over by the division of two numbers exactly if the quotient is an integer or
has few digits. -/
theorem remainder_longDivision_iff (hnum : 0 < num) (hden : 0 < den) :
    (longDivision num den).remainder = 0 ↔ den ∣ num ∨ HasFewDigits ((num : ℚ) / den) := by
  rw [remainder_longDivision_iff_dvd hden]
  constructor
  · exact hasFewDigits_of_dvd hnum hden
  · rintro (hdvd | hfew)
    · rw [(liftNumerator_eq den hnum).1, mul_assoc]
      exact Dvd.dvd.mul_right hdvd _
    · exact dvd_of_hasFewDigits hnum hden hfew

/-- Rounding never gives the exact quotient where something is left over. -/
theorem roundedQuotient_eq_iff (hnum : 0 < num) (hden : 0 < den) :
    (roundedQuotient den (longDivision num den) : ℚ) =
        num / den * 10 ^ (longDivision num den).places ↔
      (longDivision num den).remainder = 0 := by
  obtain ⟨hsum, hrem⟩ := longDivision_add_remainder hnum hden
  have hne : (den : ℚ) ≠ 0 := Nat.cast_ne_zero.mpr hden.ne'
  have hnat : (roundedQuotient den (longDivision num den) : ℚ) =
        num / den * 10 ^ (longDivision num den).places ↔
      roundedQuotient den (longDivision num den) * den =
        num * 10 ^ (longDivision num den).places := by
    rw [div_mul_eq_mul_div, eq_div_iff hne]
    exact_mod_cast Iff.rfl
  rw [hnat, ← hsum, roundedQuotient]
  split
  · rename_i hround
    rw [Nat.add_mul, Nat.one_mul, Nat.add_left_cancel_iff]
    exact ⟨fun h => absurd h.symm hrem.ne, fun h => absurd h hround.1⟩
  · rw [eq_comm, Nat.add_eq_left]

end FewDigits

/-! ### Division of decimals -/

theorem hasFewDigits_mul_zpow {q : ℚ} {k : Int} :
    HasFewDigits (q * (10 : ℚ) ^ k) ↔ HasFewDigits q := by
  have h : ∀ (q : ℚ) (k : Int), HasFewDigits q → HasFewDigits (q * (10 : ℚ) ^ k) := by
    rintro _ k ⟨m, e, hm, rfl⟩
    exact ⟨m, e + k, hm, by rw [zpow_add₀ (by norm_num), mul_assoc]⟩
  refine ⟨fun hq => ?_, h q k⟩
  have hback := h _ (-k) hq
  rwa [mul_assoc, ← zpow_add₀ (by norm_num), add_neg_cancel, zpow_zero, mul_one] at hback

theorem hasFewDigits_sign_mul {q : ℚ} {s : Int} (hs : s.natAbs = 1) :
    HasFewDigits (s * q) ↔ HasFewDigits q := by
  have h : ∀ q : ℚ, HasFewDigits q → HasFewDigits (-q) := by
    rintro _ ⟨m, e, hm, rfl⟩
    exact ⟨-m, e, by rwa [abs_neg], by push_cast; ring⟩
  rcases Int.natAbs_eq_iff.mp hs with rfl | rfl
  · simp
  · rw [Int.cast_neg, Nat.cast_one, Int.cast_one, neg_one_mul]
    exact ⟨fun hq => neg_neg q ▸ h _ hq, h q⟩

/-- The quotient of two decimals comes out: the divisor is recognised as one, its digits divide those
of the dividend, or the quotient has few digits. -/
def QuotientComesOut (a b : Decimal) : Prop :=
  b.isUnit = true ∨ b.digits ∣ a.digits ∨ HasFewDigits (a.value / b.value)

/-- A quotient of integers as its sign and the quotient of the magnitudes. -/
theorem intCast_div_eq {m n : Int} (hn : n ≠ 0) :
    (m : ℚ) / n = ((m.sign * n.sign : Int) : ℚ) * ((m.natAbs : ℚ) / n.natAbs) := by
  have hself : (n.sign : ℚ) * n.sign = 1 := by
    rcases lt_or_gt_of_ne hn with h | h
    · simp [Int.sign_eq_neg_one_of_neg h]
    · simp [Int.sign_eq_one_of_pos h]
  have habs : ∀ k : Int, (k : ℚ) = k.sign * k.natAbs := by
    intro k
    rw [← Int.cast_natCast, ← Int.cast_mul, Int.sign_mul_natAbs]
  calc (m : ℚ) / n
      = (m.sign * m.natAbs) / (n.sign * n.natAbs) := by rw [← habs, ← habs]
    _ = m.sign / n.sign * ((m.natAbs : ℚ) / n.natAbs) := mul_div_mul_comm _ _ _ _
    _ = ((m.sign * n.sign : Int) : ℚ) * ((m.natAbs : ℚ) / n.natAbs) := by
        rw [div_eq_mul_inv (m.sign : ℚ), inv_eq_of_mul_eq_one_left hself, Int.cast_mul]

theorem value_div_value (a b : Decimal) :
    a.value / b.value = (a.digits : ℚ) / b.digits * (10 : ℚ) ^ (-(a.scale - b.scale)) := by
  have hpow : (10 : ℚ) ^ (-(a.scale - b.scale)) = (10 : ℚ) ^ (-a.scale) / (10 : ℚ) ^ (-b.scale) := by
    rw [← zpow_sub₀ (by norm_num)]
    congr 1
    ring
  rw [value, value, hpow, mul_div_mul_comm]

/-- Long division with the signs of its operands gives the exact quotient if the digits of the
divisor divide those of the dividend, or if the quotient has few digits. -/
theorem value_divMagnitudes_eq_iff {a b : Decimal} (ha : a.digits ≠ 0) (hb : b.digits ≠ 0) :
    value ⟨a.digits.sign * b.digits.sign *
          (divMagnitudes a.digits.natAbs b.digits.natAbs (a.scale - b.scale)).1,
        (divMagnitudes a.digits.natAbs b.digits.natAbs (a.scale - b.scale)).2⟩ =
        a.value / b.value ↔
      b.digits ∣ a.digits ∨ HasFewDigits (a.value / b.value) := by
  set s := a.digits.sign * b.digits.sign with hs
  have hsign : s.natAbs = 1 := by
    rw [hs, Int.natAbs_mul, Int.natAbs_sign_of_ne_zero ha, Int.natAbs_sign_of_ne_zero hb]
  have hne : (s : ℚ) ≠ 0 := Int.cast_ne_zero.mpr (Int.natAbs_pos.mp (by omega))
  have hnum := Int.natAbs_pos.mpr ha
  have hden := Int.natAbs_pos.mpr hb
  have hquotient := value_div_value a b
  rw [intCast_div_eq hb, ← hs] at hquotient
  set q : ℚ := (a.digits.natAbs : ℚ) / b.digits.natAbs
  rw [divMagnitudes_eq, hquotient]
  set rounded := roundedQuotient b.digits.natAbs (longDivision a.digits.natAbs b.digits.natAbs)
  set places := (longDivision a.digits.natAbs b.digits.natAbs).places
  have hvalue : value ⟨s * rounded, a.scale - b.scale + places⟩ =
      s * (rounded / 10 ^ places) * (10 : ℚ) ^ (-(a.scale - b.scale)) := by
    rw [value, neg_add, zpow_add₀ (by norm_num), zpow_neg _ (places : Int), zpow_natCast]
    push_cast
    ring
  calc value ⟨s * rounded, a.scale - b.scale + places⟩ =
        s * q * (10 : ℚ) ^ (-(a.scale - b.scale))
      ↔ (rounded : ℚ) / 10 ^ places = q := by
        rw [hvalue, mul_left_inj' (ten_zpow_pos _).ne', mul_right_inj' hne]
    _ ↔ (rounded : ℚ) = q * 10 ^ places := div_eq_iff (pow_ne_zero _ (by norm_num))
    _ ↔ b.digits.natAbs ∣ a.digits.natAbs ∨ HasFewDigits q :=
        (roundedQuotient_eq_iff hnum hden).trans (remainder_longDivision_iff hnum hden)
    _ ↔ b.digits ∣ a.digits ∨ HasFewDigits (s * q * (10 : ℚ) ^ (-(a.scale - b.scale))) := by
        rw [Int.natAbs_dvd_natAbs, hasFewDigits_mul_zpow, hasFewDigits_sign_mul hsign]

/-- Division gives the exact quotient precisely where the quotient comes out. -/
theorem value_div_eq_iff {a b : Decimal} (hb : b.value ≠ 0) :
    (a.div b).value = a.value / b.value ↔ QuotientComesOut a b := by
  have hdigits : b.digits ≠ 0 := fun h => hb (value_eq_zero_iff.mpr h)
  rw [div]
  by_cases hzero : a.isZero = true
  · have hvalue : a.value = 0 := isZero_iff.mp hzero
    have ha : a.digits = 0 := value_eq_zero_iff.mp hvalue
    simp [hzero, hvalue, QuotientComesOut, ha]
  by_cases hunit : b.isUnit = true
  · simp [hunit, value_of_isUnit hunit, QuotientComesOut]
  rw [if_neg (by simp [hzero, hunit])]
  by_cases hsame : a.digits = b.digits
  · have hone : (a.digits : ℚ) / b.digits = 1 := by
      rw [hsame, div_self (Int.cast_ne_zero.mpr hdigits)]
    rw [if_pos hsame, value_div_value, hone, value, Int.cast_one]
    exact iff_of_true rfl (.inr (.inl (hsame ▸ dvd_rfl)))
  · have ha : a.digits ≠ 0 := fun h => hzero (isZero_iff.mpr (value_eq_zero_iff.mpr h))
    rw [if_neg hsame, QuotientComesOut, or_iff_right hunit]
    exact value_divMagnitudes_eq_iff ha hdigits

end RecordScript.Decimal
