import RecordScript.Proofs.Decimal.Integer

/-!
# Decimals in words

A decimal is taken as an integer of 64 bits with the help of words: its scale is one, the number of
places by which the digits are shifted is narrowed to 32 bits, and the shifted digits are narrowed to
64 bits. No integer that fits is lost on the way, and no power of ten is too large.
-/

namespace RecordScript.Decimal

/-- A word of 64 bits as one of 32 bits. -/
def narrowPlaces? (places : UInt64) : Option UInt32 :=
  if places.toNat < UInt32.size then some places.toUInt32 else none

/-- The number of places by which digits of the given scale are shifted. -/
def shiftWord? (scale : Int64) : Option UInt32 :=
  (narrowPlaces? (UInt64.ofNat scale.toInt.natAbs)).filter fun shift => shift.toNat ≤ shiftLimit

/-- An integer as a word of 64 bits. -/
def narrow? (n : Int) : Option Int64 := if fitsWord n then some (Int64.ofInt n) else none

/-- The word that digits of the given scale stand for, if they do not end in a zero. -/
def wordInteger? (digits : Int) (scale : Int64) : Option Int64 :=
  if 0 < scale then none
  else (shiftWord? scale).bind fun shift => narrow? (digits * Int.pow 10 shift.toNat)

theorem toNat_natAbs_toInt (scale : Int64) :
    (UInt64.ofNat scale.toInt.natAbs).toNat = scale.toInt.natAbs := by
  have hle := scale.le_toInt
  have hlt := scale.toInt_lt
  apply UInt64.toNat_ofNat_of_lt'
  show scale.toInt.natAbs < 2 ^ 64
  omega

/-- A number of places is lost only where it is beyond the limit. -/
theorem map_toNat_shiftWord? (scale : Int64) : (shiftWord? scale).map UInt32.toNat =
    if shiftLimit < scale.toInt.natAbs then none else some scale.toInt.natAbs := by
  have hlimit : shiftLimit < UInt32.size := by decide
  rw [shiftWord?, narrowPlaces?, toNat_natAbs_toInt]
  split
  · rename_i hsize
    have hplaces : (UInt64.ofNat scale.toInt.natAbs).toUInt32.toNat = scale.toInt.natAbs := by
      rw [UInt64.toNat_toUInt32, toNat_natAbs_toInt, Nat.mod_eq_of_lt hsize]
    rw [Option.filter_some, hplaces]
    by_cases hlarge : shiftLimit < scale.toInt.natAbs
    · rw [if_pos hlarge, if_neg (by simpa using hlarge)]
      rfl
    · rw [if_neg hlarge, if_pos (by simpa using hlarge), Option.map_some, hplaces]
  · rename_i hsize
    rw [if_pos (hlimit.trans_le (not_lt.mp hsize))]
    rfl

theorem map_toInt_narrow? (n : Int) :
    (narrow? n).map Int64.toInt = if fitsWord n then some n else none := by
  rw [narrow?]
  split
  · rename_i h
    obtain ⟨hleast, hmost⟩ := fitsWord_iff.mp h
    rw [Option.map_some, Int64.toInt_ofInt_of_le hleast hmost]
  · rfl

/-- With words the same integers are found as without. -/
theorem map_toInt_wordInteger? {a : Decimal} {scale : Int64} (h : scale.toInt = a.normalize.scale) :
    (wordInteger? a.normalize.digits scale).map Int64.toInt = a.toInteger? := by
  have hzero : 0 < scale ↔ 0 < a.normalize.scale := by
    rw [Int64.lt_iff_toInt_lt, Int64.toInt_zero, h]
  rw [wordInteger?, toInteger?]
  simp only [hzero]
  by_cases hscale : 0 < a.normalize.scale
  · rw [if_pos hscale, if_pos hscale]
    rfl
  · have hplaces : scale.toInt.natAbs = (-a.normalize.scale).toNat := by omega
    have hshift := map_toNat_shiftWord? scale
    rw [if_neg hscale, if_neg hscale, ← hplaces]
    by_cases hlarge : shiftLimit < scale.toInt.natAbs
    · rw [if_pos hlarge, Option.map_eq_none_iff] at hshift
      rw [if_pos hlarge, hshift]
      rfl
    · rw [if_neg hlarge] at hshift
      obtain ⟨shift, hsome, htoNat⟩ := Option.map_eq_some_iff.mp hshift
      rw [if_neg hlarge, hsome, Option.bind_some, map_toInt_narrow?, htoNat]

/-- Exactly the integers between the two ends of a word are found, and with words no power of ten on
the way is larger than a word. -/
theorem toInteger?_exact (a : Decimal) :
    (∀ k : Int, a.toInteger? = some k ↔ a.value = k ∧ -2 ^ 63 ≤ k ∧ k ≤ 2 ^ 63 - 1) ∧
    ∀ scale : Int64, scale.toInt = a.normalize.scale →
      (wordInteger? a.normalize.digits scale).map Int64.toInt = a.toInteger? ∧
      ∀ shift, shiftWord? scale = some shift → 10 ^ shift.toNat < 2 ^ 63 := by
  refine ⟨fun k => ?_, fun scale h => ⟨map_toInt_wordInteger? h, fun shift hsome => ?_⟩⟩
  · rw [toInteger?_eq_some_iff, fitsWord_iff, Int.le_sub_one_iff]
  · have hshift := map_toNat_shiftWord? scale
    rw [hsome, Option.map_some] at hshift
    split at hshift
    · cases hshift
    · rename_i hsmall
      rw [Option.some.inj hshift]
      calc 10 ^ scale.toInt.natAbs
          ≤ 10 ^ shiftLimit := Nat.pow_le_pow_right (by decide) (not_lt.mp hsmall)
        _ < 2 ^ 63 := by decide

/-- The least integer of a word is found although it is written with a place, and nine is shifted by
as many places as a word has room for. -/
theorem toInteger?_exact_ends :
    (⟨-92233720368547758080, 1⟩ : Decimal).toInteger? = some (-2 ^ 63) ∧
    (wordInteger? 9 (-18)).map Int64.toInt = (⟨9000, -15⟩ : Decimal).toInteger? ∧
    10 ^ 18 < 2 ^ 63 := by
  have hleast := (toInteger?_exact ⟨-92233720368547758080, 1⟩).1 (-2 ^ 63)
  obtain ⟨hword, hpow⟩ := (toInteger?_exact ⟨9000, -15⟩).2 (-18) rfl
  refine ⟨hleast.mpr ⟨?_, by decide, by decide⟩, ?_, hpow 18 rfl⟩
  · rw [value]
    norm_num
  · rw [← hword]
    rfl

end RecordScript.Decimal
