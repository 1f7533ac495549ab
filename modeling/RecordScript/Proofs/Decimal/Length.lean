import RecordScript.Pattern.PlaceEngine
import RecordScript.Proofs.Decimal.Reading
import RecordScript.Proofs.Evaluation.Arithmetic
import RecordScript.Proofs.Text.Trim

/-!
# Lengths of written numbers

A number that is read from a text is not written with many more characters than the text has, whatever
its exponent, because its scale is limited. Bringing two such numbers to a common scale, or adding
their scales, goes at most twice as far.
-/

namespace RecordScript

namespace Decimal

open Numeral

/-! ### Numbers of digits -/

theorem digitCount_le_digitCount {m n : Nat} (h : m ≤ n) : digitCount m ≤ digitCount n :=
  (digitCount_le_iff (digitCount_pos n)).mpr (h.trans_lt (lt_pow_digitCount n))

theorem digitCount_mul_le (m n : Nat) : digitCount (m * n) ≤ digitCount m + digitCount n := by
  rw [digitCount_le_iff (Nat.add_pos_left (digitCount_pos m) _), pow_add]
  exact Nat.mul_lt_mul'' (lt_pow_digitCount m) (lt_pow_digitCount n)

theorem digitCount_add_le (m n : Nat) : digitCount (m + n) ≤ digitCount m + digitCount n := by
  have htwo : ∀ k, 2 ≤ 10 ^ digitCount k := fun k =>
    Nat.le_trans (by decide) (Nat.le_self_pow (digitCount_pos k).ne' 10)
  rw [digitCount_le_iff (Nat.add_pos_left (digitCount_pos m) _), pow_add]
  calc m + n < 10 ^ digitCount m + 10 ^ digitCount n :=
        Nat.add_lt_add (lt_pow_digitCount m) (lt_pow_digitCount n)
    _ ≤ 10 ^ digitCount m * 10 ^ digitCount n := Nat.add_le_mul (htwo m) (htwo n)

/-- Zeros behind its digits make a number longer by as many digits. -/
theorem digitCount_mul_pow_le (n k : Nat) : digitCount (n * 10 ^ k) ≤ digitCount n + k := by
  rw [digitCount_le_iff (Nat.add_pos_left (digitCount_pos n) _), pow_add]
  exact Nat.mul_lt_mul_of_pos_right (lt_pow_digitCount n) (Nat.pow_pos (by decide))

theorem wholeValue_lt {ds : List Char} (h : ∀ c ∈ ds, c.isDigit = true) :
    wholeValue ds < 10 ^ ds.length := by
  induction ds with
  | nil => simp [wholeValue]
  | cons d ds ih =>
    obtain ⟨hd, hds⟩ := List.forall_mem_cons.mp h
    calc digitValue d * 10 ^ ds.length + wholeValue ds
        < digitValue d * 10 ^ ds.length + 10 ^ ds.length := Nat.add_lt_add_left (ih hds) _
      _ = (digitValue d + 1) * 10 ^ ds.length := (Nat.succ_mul _ _).symm
      _ ≤ 10 * 10 ^ ds.length := Nat.mul_le_mul_right _ (digitValue_lt_ten hd)
      _ = 10 ^ (ds.length + 1) := (pow_succ' 10 ds.length).symm

/-- The number of characters of an integer. -/
def width (n : Int) : Nat := digitCount n.natAbs + if n < 0 then 1 else 0

theorem width_pos (n : Int) : 0 < width n := Nat.add_pos_left (digitCount_pos _) _

theorem width_neg_le (n : Int) : width (-n) ≤ width n + 1 := by
  rw [width, width, Int.natAbs_neg]
  split <;> omega

theorem width_add_le (m n : Int) : width (m + n) ≤ width m + width n + 1 := by
  have hdigits : digitCount (m + n).natAbs ≤ digitCount m.natAbs + digitCount n.natAbs :=
    (digitCount_le_digitCount (Int.natAbs_add_le m n)).trans (digitCount_add_le _ _)
  rw [width, width, width]
  split <;> omega

theorem width_sub_le (m n : Int) : width (m - n) ≤ width m + width n + 2 := by
  have hneg := width_neg_le n
  have hadd := width_add_le m (-n)
  rw [← sub_eq_add_neg] at hadd
  omega

theorem width_mul_le (m n : Int) : width (m * n) ≤ width m + width n := by
  have hdigits := digitCount_mul_le m.natAbs n.natAbs
  have hsign : m * n < 0 → m < 0 ∨ n < 0 := by
    intro h
    by_contra hboth
    obtain ⟨hm, hn⟩ := not_or.mp hboth
    exact absurd (mul_nonneg (not_lt.mp hm) (not_lt.mp hn)) (not_le_of_gt h)
  rw [width, width, width, Int.natAbs_mul]
  by_cases h : m * n < 0
  · rcases hsign h with hm | hn
    · rw [if_pos h, if_pos hm]
      omega
    · rw [if_pos h, if_pos hn]
      omega
  · rw [if_neg h]
    omega

theorem width_digitsAt_le (a : Decimal) (s : Int) :
    width (a.digitsAt s) ≤ width a.digits + (s - a.scale).toNat := by
  have hdigits := digitCount_mul_pow_le a.digits.natAbs (s - a.scale).toNat
  have habs : (a.digitsAt s).natAbs = a.digits.natAbs * 10 ^ (s - a.scale).toNat := by
    rw [digitsAt, Int.natAbs_mul]
    exact congrArg _ (Int.natAbs_pow 10 _)
  have hsign : a.digitsAt s < 0 → a.digits < 0 := by
    intro h
    by_contra hnot
    have hpow : (0 : Int) ≤ Int.pow 10 (s - a.scale).toNat := pow_nonneg (by decide) _
    exact absurd (mul_nonneg (not_lt.mp hnot) hpow) (not_le_of_gt h)
  rw [width, width, habs]
  split
  · rename_i h
    rw [if_pos (hsign h)]
    omega
  · omega

/-! ### Positional notation -/

/-- A point goes among digits that are at least one more than the places behind it. -/
theorem length_insertPoint (ds : List Char) (places : Nat) :
    (insertPoint ds places).length = max ds.length (places + 1) + 1 := by
  rw [insertPoint]
  simp only [List.length_append, List.length_cons, List.length_take, List.length_drop,
    List.length_replicate]
  omega

theorem length_plainMagnitude_le (a : Decimal) : a.plainMagnitude.length ≤
    max (digitCount a.digits.natAbs + (-a.scale).toNat) (a.scale.toNat + 1) + 1 := by
  -- zeros behind the digits, the digits alone, or a point among them
  rw [plainMagnitude]
  have hdigits : (Nat.toDigits 10 a.digits.natAbs).length = digitCount a.digits.natAbs := rfl
  split
  · split
    · omega
    · rw [List.length_append, List.length_replicate]
      omega
  · split
    · omega
    · rw [length_insertPoint]
      omega

/-- A number is written with its digits and the zeros that its scale asks for, on one side of them or
on the other. -/
theorem length_format_le (a : Decimal) : a.format.length ≤
    max (width a.digits + (-a.scale).toNat) (a.scale.toNat + 2) + 1 := by
  have hmagnitude := a.length_plainMagnitude_le
  rw [← String.length_toList, format, String.toList_ofList, width]
  split
  · rw [List.length_cons]
    omega
  · omega

/-! ### Numbers from texts -/

/-- The number has at most the given number of digits, counting its sign, and a scale that a text may
carry. -/
structure IsShort (a : Decimal) (n : Nat) : Prop where
  width_le : width a.digits ≤ n
  scale_le : a.scale.natAbs ≤ scaleLimit

/-- A numeral has as many characters as its number, and perhaps more. -/
theorem width_decimal_le (n : Numeral) :
    width n.decimal.digits ≤ n.sign.chars.length + (n.whole.length + n.places.length) := by
  have hdigit : ∀ c ∈ n.whole ++ n.places, c.isDigit = true :=
    List.forall_mem_append.mpr ⟨n.whole_isDigit, n.fraction_isDigit⟩
  have hcount : digitCount (wholeValue (n.whole ++ n.places)) ≤
      n.whole.length + n.places.length := by
    rw [digitCount_le_iff, ← List.length_append]
    · exact wholeValue_lt hdigit
    · rw [← List.length_append, List.length_pos_iff]
      exact n.ne_nil
  rw [Numeral.decimal]
  generalize wholeValue (n.whole ++ n.places) = value at hcount
  -- only a minus sign is left of the characters in front of the digits
  cases n.sign with
  | none | plus =>
    have hwidth : width (1 * (value : Int)) = digitCount value := by simp [width]
    rw [Sign.factor, hwidth]
    exact hcount.trans (Nat.le_add_left _ _)
  | minus =>
    have hwidth := width_neg_le value
    have hvalue : width (value : Int) = digitCount value := by simp [width]
    rw [Sign.factor, neg_one_mul, Sign.chars, List.length_singleton]
    show width (-(value : Int)) ≤ _
    omega

theorem length_le_of_isWrittenBy {n : Numeral} {cs : List Char} (h : n.IsWrittenBy cs) :
    n.sign.chars.length + (n.whole.length + n.places.length) ≤ cs.length := by
  obtain ⟨whole, fraction, -, hwhole, hfraction, rfl⟩ := h
  have hplaces : n.places = ungrouped (fraction.getD []) := by
    rw [places, ← hfraction, getD_map_ungrouped]
  have hw : n.whole.length ≤ whole.length := hwhole ▸ List.length_filter_le _ _
  have hp : n.places.length ≤ (pointed fraction).length := by
    rw [hplaces]
    refine (List.length_filter_le _ _).trans ?_
    cases fraction with
    | none => exact Nat.zero_le _
    | some ds => exact Nat.le_succ _
  simp only [List.length_append]
  omega

/-- What is read from a text is no longer than the text. -/
theorem isShort_of_parse {text : String} {a : Decimal} (h : parse text = some a) :
    IsShort a text.length := by
  obtain ⟨hspelled, hscale⟩ := parse_eq_some_iff.mp h
  refine ⟨Nat.le_trans ?_ (Text.length_trim_le text), hscale⟩
  rw [← String.length_toList]
  generalize (Text.trim text).toList = cs at hspelled
  cases hspelled with
  | @numeral n cs hcs => exact (width_decimal_le n).trans (length_le_of_isWrittenBy hcs)
  | @behindPoint n cs _ _ hcs =>
    exact ((width_decimal_le n).trans (length_le_of_isWrittenBy hcs)).trans (Nat.le_succ _)

namespace IsShort

variable {a b : Decimal} {m n : Nat}

theorem length_format_le (h : IsShort a n) : a.format.length ≤ n + 4098 := by
  have hlength := a.length_format_le
  obtain ⟨hwidth, hscale⟩ := h
  have hpos := width_pos a.digits
  rw [scaleLimit] at hscale
  omega

theorem neg (h : IsShort a n) : IsShort a.neg (n + 1) :=
  ⟨(width_neg_le a.digits).trans (Nat.succ_le_succ h.width_le), h.scale_le⟩

/-- At the common scale of two short numbers, what is hardly longer than both together is not written
with too many characters. -/
theorem length_format_le_of_common (ha : IsShort a m) (hb : IsShort b n) {c : Decimal}
    (hscale : c.scale = a.commonScale b)
    (hwidth : width c.digits ≤
      width (a.digitsAt (a.commonScale b)) + width (b.digitsAt (a.commonScale b)) + 2) :
    c.format.length ≤ m + n + 8200 := by
  have hlength := c.length_format_le
  have hwa := a.width_digitsAt_le (a.commonScale b)
  have hwb := b.width_digitsAt_le (a.commonScale b)
  obtain ⟨ha, hsa⟩ := ha
  obtain ⟨hb, hsb⟩ := hb
  rw [scaleLimit] at hsa hsb
  rw [hscale] at hlength
  -- one of the two is at the common scale already
  have hcommon : a.commonScale b = max a.scale b.scale := rfl
  omega

theorem length_format_add_le (ha : IsShort a m) (hb : IsShort b n) :
    (a.add b).format.length ≤ m + n + 8200 :=
  ha.length_format_le_of_common hb rfl ((width_add_le _ _).trans (Nat.le_succ _))

theorem length_format_sub_le (ha : IsShort a m) (hb : IsShort b n) :
    (a.sub b).format.length ≤ m + n + 8200 := by
  rw [sub]
  split
  · have hlength := ha.length_format_le
    omega
  · split
    · have hlength := hb.neg.length_format_le
      omega
    · exact ha.length_format_le_of_common hb rfl (width_sub_le _ _)

theorem length_format_mul_le (ha : IsShort a m) (hb : IsShort b n) :
    (a.mul b).format.length ≤ m + n + 8200 := by
  rw [mul]
  split
  · have hlength := hb.length_format_le
    omega
  · split
    · have hlength := ha.length_format_le
      omega
    · have hlength := Decimal.length_format_le ⟨a.digits * b.digits, a.scale + b.scale⟩
      have hwidth := width_mul_le a.digits b.digits
      obtain ⟨ha, hsa⟩ := ha
      obtain ⟨hb, hsb⟩ := hb
      rw [scaleLimit] at hsa hsb
      simp only at hlength
      omega

end IsShort

end Decimal

namespace BinaryOp

open Decimal

theorem apply_field_eq_ok [RegexEngine] {op : BinaryOp} {f : Decimal → Decimal → Decimal}
    (hop : op.arithmetic? = some fun a b => .ok (f a b)) {s t : String} {a b : Decimal}
    (hs : parse s = some a) (ht : parse t = some b) (x y : String) :
    op.apply (.field x s) (.field y t) = .ok (.number (f a b)) := by
  have hnumber : ∀ {text : String} {n : Decimal} (x : String), parse text = some n →
      (Operand.field x text).toNumber = .ok n := by
    intro text n x h
    rw [Operand.toNumber, h]
  exact apply_eq_ok hop (hnumber x hs) (hnumber y ht) rfl

/-- Short fields do not make long numbers: neither when they are written as numbers, nor when they
are added, subtracted or multiplied. -/
theorem length_format_of_parse [RegexEngine] :
    (∀ (text : String) (a : Decimal), parse text = some a →
      a.format.length ≤ text.length + 4098) ∧
    ∀ (s t : String) (a b : Decimal), parse s = some a → parse t = some b →
      ∀ op ∈ [add, sub, mul], ∀ x y : String, ∃ c,
        op.apply (.field x s) (.field y t) = .ok (.number c) ∧
        c.format.length ≤ s.length + t.length + 8200 := by
  refine ⟨fun text a h => (isShort_of_parse h).length_format_le, ?_⟩
  intro s t a b hs ht op hop x y
  have ha := isShort_of_parse hs
  have hb := isShort_of_parse ht
  simp only [List.mem_cons, List.not_mem_nil, or_false] at hop
  rcases hop with rfl | rfl | rfl
  · exact ⟨_, apply_field_eq_ok rfl hs ht x y, ha.length_format_add_le hb⟩
  · exact ⟨_, apply_field_eq_ok rfl hs ht x y, ha.length_format_sub_le hb⟩
  · exact ⟨_, apply_field_eq_ok rfl hs ht x y, ha.length_format_mul_le hb⟩

/-- The largest and the smallest power of ten that a text may carry are as far apart as can be. -/
theorem length_format_of_parse_powers :
    (⟨1, -4096⟩ : Decimal).format.length ≤ 6 + 4098 ∧
    ∃ c, add.apply (.field "x" "1e4096") (.field "y" "1e-4096") = .ok (.number c) ∧
      c.format.length ≤ 6 + 7 + 8200 := by
  have hlarge : parse "1e4096" = some ⟨1, -4096⟩ := by decide +kernel
  have hsmall : parse "1e-4096" = some ⟨1, 4096⟩ := by decide +kernel
  exact ⟨length_format_of_parse.1 _ _ hlarge,
    length_format_of_parse.2 _ _ _ _ hlarge hsmall add (by decide) "x" "y"⟩

end BinaryOp

end RecordScript
