import RecordScript.Decimal.Notation
import RecordScript.Proofs.Decimal.Value

/-!
# Numerals

The numerals of everyday decimal notation: a sign if need be, digits with a point among them or at
one of their ends, and an exponent if need be. A numeral denotes a rational number by its own rule,
digit by digit, and the decimal that it stands for has that value.
-/

namespace RecordScript

/-! ### Digits -/

/-- The number that a digit stands for. -/
def digitValue (c : Char) : Nat := c.toNat - '0'.toNat

/-- The number that digits denote in front of a point. -/
def wholeValue : List Char → Nat
  | [] => 0
  | d :: ds => digitValue d * 10 ^ ds.length + wholeValue ds

/-- The number that digits denote behind a point. -/
def fractionValue : List Char → ℚ
  | [] => 0
  | d :: ds => (digitValue d + fractionValue ds) / 10

theorem wholeValue_append (ds es : List Char) :
    wholeValue (ds ++ es) = wholeValue ds * 10 ^ es.length + wholeValue es := by
  induction ds with
  | nil => simp [wholeValue]
  | cons d ds ih =>
    rw [List.cons_append, wholeValue, wholeValue, ih, List.length_append, pow_add]
    ring

theorem fractionValue_eq (ds : List Char) :
    fractionValue ds = wholeValue ds * (10 : ℚ) ^ (-(ds.length : Int)) := by
  induction ds with
  | nil => simp [fractionValue, wholeValue]
  | cons d ds ih =>
    rw [fractionValue, wholeValue, ih, List.length_cons, zpow_neg, zpow_neg, zpow_natCast,
      zpow_natCast]
    push_cast
    field_simp
    ring

theorem wholeValue_replicate_append (n : Nat) (ds : List Char) :
    wholeValue (List.replicate n '0' ++ ds) = wholeValue ds := by
  induction n with
  | zero => rfl
  | succ n ih =>
    rw [List.replicate_succ, List.cons_append, wholeValue, ih]
    simp [digitValue]

/-- Reading digits one after another gives the number that they denote. -/
theorem Decimal.digitsValue_eq (ds : List Char) : digitsValue ds = wholeValue ds := by
  suffices h : ∀ n, ds.foldl (fun n c => n * 10 + (c.toNat - '0'.toNat)) n =
      n * 10 ^ ds.length + wholeValue ds by
    rw [digitsValue, h, Nat.zero_mul, Nat.zero_add]
  induction ds with
  | nil => simp [wholeValue]
  | cons d ds ih =>
    intro n
    rw [List.foldl_cons, ih, wholeValue, List.length_cons, digitValue]
    ring

/-! ### Digits of natural numbers -/

theorem digitChar_digitValue {c : Char} (h : c.isDigit = true) :
    Nat.digitChar (digitValue c) = c := by
  have hc : 48 ≤ c.toNat ∧ c.toNat ≤ 57 := Char.isDigit_iff_toNat.mp h
  apply Char.toNat_inj.mp
  rw [Nat.toNat_digitChar_of_lt_ten] <;> simp [digitValue] <;> omega

theorem digitValue_lt_ten {c : Char} (h : c.isDigit = true) : digitValue c < 10 := by
  have hc : 48 ≤ c.toNat ∧ c.toNat ≤ 57 := Char.isDigit_iff_toNat.mp h
  simp [digitValue]
  omega

/-- Digits behind the digits of a positive number are the last digits of a larger one. -/
theorem toDigits_append {n : Nat} (hn : 0 < n) {ds : List Char} (h : ∀ c ∈ ds, c.isDigit = true) :
    Nat.toDigits 10 n ++ ds = Nat.toDigits 10 (n * 10 ^ ds.length + wholeValue ds) := by
  induction ds generalizing n with
  | nil => simp [wholeValue]
  | cons d ds ih =>
    obtain ⟨hd, hds⟩ := List.forall_mem_cons.mp h
    have hstep : Nat.toDigits 10 n ++ [d] = Nat.toDigits 10 (10 * n + digitValue d) := by
      rw [← Nat.toDigits_append_toDigits (by decide) hn (digitValue_lt_ten hd),
        Nat.toDigits_of_lt_base (digitValue_lt_ten hd), digitChar_digitValue hd]
    calc Nat.toDigits 10 n ++ d :: ds
        = Nat.toDigits 10 (10 * n + digitValue d) ++ ds := by rw [← hstep]; simp
      _ = Nat.toDigits 10 ((10 * n + digitValue d) * 10 ^ ds.length + wholeValue ds) :=
          ih (by omega) hds
      _ = Nat.toDigits 10 (n * 10 ^ (d :: ds).length + wholeValue (d :: ds)) := by
          rw [wholeValue, List.length_cons, pow_succ]
          congr 1
          ring

/-- Digits without a leading zero are the digits of the number that they denote. -/
theorem toDigits_wholeValue {d : Char} {ds : List Char} (h : ∀ c ∈ d :: ds, c.isDigit = true)
    (hzero : d ≠ '0') : Nat.toDigits 10 (wholeValue (d :: ds)) = d :: ds := by
  obtain ⟨hd, hds⟩ := List.forall_mem_cons.mp h
  have hpos : 0 < digitValue d := by
    by_contra hnot
    have hchar := digitChar_digitValue hd
    rw [Nat.eq_zero_of_not_pos hnot] at hchar
    exact hzero hchar.symm
  have happend := toDigits_append hpos hds
  rw [Nat.toDigits_of_lt_base (digitValue_lt_ten hd), digitChar_digitValue hd] at happend
  exact happend.symm

theorem wholeValue_toDigits (n : Nat) : wholeValue (Nat.toDigits 10 n) = n := by
  have h := Nat.ofDigitChars_ten_toDigits (n := n)
  rw [Nat.ofDigitChars_eq_foldl] at h
  rw [← Decimal.digitsValue_eq]
  simpa only [Decimal.digitsValue, Nat.mul_comm] using h

/-! ### Numerals -/

/-- The sign of a numeral or of an exponent. -/
inductive Numeral.Sign where
  | none
  | plus
  | minus
deriving DecidableEq

namespace Numeral.Sign

/-- The sign as it is written. -/
def chars : Sign → List Char
  | none => []
  | plus => ['+']
  | minus => ['-']

/-- The factor that the sign stands for. -/
def factor : Sign → Int
  | none | plus => 1
  | minus => -1

theorem signed_eq (sign : Sign) (n : Nat) :
    Decimal.signed (decide (sign = minus)) n = sign.factor * n := by
  cases sign <;> simp [Decimal.signed, factor]

end Numeral.Sign

/-- The marks that an exponent starts with. -/
def Numeral.IsMark (c : Char) : Prop := c = 'e' ∨ c = 'E'

/-- The exponent of a numeral. -/
structure Numeral.Exponent where
  mark : Char
  sign : Sign
  digits : List Char
  isMark : IsMark mark
  ne_nil : digits ≠ []
  isDigit : ∀ c ∈ digits, c.isDigit = true

namespace Numeral.Exponent

/-- The exponent as it is written, with its mark. -/
def chars (e : Exponent) : List Char := e.mark :: (e.sign.chars ++ e.digits)

/-- The power of ten that the exponent stands for. -/
def value (e : Exponent) : Int := e.sign.factor * wholeValue e.digits

end Numeral.Exponent

/-- A numeral: a sign, digits in front of a point, the digits behind it if there is one, and an
exponent. -/
structure Numeral where
  sign : Numeral.Sign
  whole : List Char
  fraction : Option (List Char)
  exponent : Option Numeral.Exponent
  whole_isDigit : ∀ c ∈ whole, c.isDigit = true
  fraction_isDigit : ∀ c ∈ fraction.getD [], c.isDigit = true
  ne_nil : whole ++ fraction.getD [] ≠ []

namespace Numeral

/-- The digits behind the point. -/
def places (n : Numeral) : List Char := n.fraction.getD []

/-- A point and what is behind it, or nothing. -/
def pointed (fraction : Option (List Char)) : List Char := fraction.elim [] ('.' :: ·)

/-- An exponent as it is written, or nothing. -/
def suffix (exponent : Option Exponent) : List Char := exponent.elim [] Exponent.chars

/-- The power of ten that an exponent stands for, if there is one. -/
def power (exponent : Option Exponent) : Int := exponent.elim 0 Exponent.value

/-- The numeral as it is written. -/
def chars (n : Numeral) : List Char :=
  n.sign.chars ++ (n.whole ++ pointed n.fraction) ++ suffix n.exponent

theorem mem_sign {sign : Sign} {c : Char} (h : c ∈ sign.chars) : c = '+' ∨ c = '-' := by
  cases sign <;> simp_all [Sign.chars]

/-- A numeral without an exponent has no exponent mark. -/
theorem mem_chars_of_exponent_eq_none {n : Numeral} (hn : n.exponent = none) {c : Char}
    (h : c ∈ n.chars) : c.isDigit = true ∨ c = '+' ∨ c = '-' ∨ c = '.' := by
  rw [chars, hn, suffix, Option.elim_none, List.append_nil] at h
  rcases List.mem_append.mp h with h | h
  · exact .inr ((mem_sign h).imp_right .inl)
  · rcases List.mem_append.mp h with h | h
    · exact .inl (n.whole_isDigit c h)
    · have hfraction := n.fraction_isDigit c
      cases hf : n.fraction with
      | none => simp [hf, pointed] at h
      | some ds =>
        rw [hf] at h hfraction
        rcases List.mem_cons.mp h with rfl | h
        · exact .inr (.inr (.inr rfl))
        · exact .inl (hfraction h)

theorem mem_chars {n : Numeral} {c : Char} (h : c ∈ n.chars) :
    c.isDigit = true ∨ c = '+' ∨ c = '-' ∨ c = '.' ∨ IsMark c := by
  have hbase := mem_chars_of_exponent_eq_none (n := { n with exponent := none }) rfl (c := c)
  rw [chars, suffix, Option.elim_none, List.append_nil] at hbase
  rcases List.mem_append.mp h with h | h
  · rcases hbase h with h | h | h | h
    · exact .inl h
    · exact .inr (.inl h)
    · exact .inr (.inr (.inl h))
    · exact .inr (.inr (.inr (.inl h)))
  · cases he : n.exponent with
    | none => simp [he, suffix] at h
    | some e =>
      rw [he] at h
      rcases List.mem_cons.mp h with rfl | h
      · exact .inr (.inr (.inr (.inr e.isMark)))
      · rcases List.mem_append.mp h with h | h
        · exact .inr ((mem_sign h).imp_right .inl)
        · exact .inl (e.isDigit c h)

/-- The number that the numeral denotes. -/
def value (n : Numeral) : ℚ :=
  n.sign.factor * (wholeValue n.whole + fractionValue n.places) * (10 : ℚ) ^ power n.exponent

/-- The scale of a numeral: the number of digits behind its point, less the exponent. -/
def scale (n : Numeral) : Int := n.places.length - power n.exponent

/-- The decimal that a numeral stands for. -/
def decimal (n : Numeral) : Decimal := ⟨n.sign.factor * wholeValue (n.whole ++ n.places), n.scale⟩

theorem value_decimal (n : Numeral) : n.decimal.value = n.value := by
  have hpow : (10 : ℚ) ^ (-n.scale) =
      (10 : ℚ) ^ power n.exponent * (10 : ℚ) ^ (-(n.places.length : Int)) := by
    rw [← zpow_add₀ (by norm_num), scale]
    congr 1
    ring
  rw [Decimal.value, decimal, hpow, value, wholeValue_append, fractionValue_eq, zpow_neg,
    zpow_natCast]
  push_cast
  field_simp

end Numeral

end RecordScript
