import RecordScript.Text.Utf8

/-!
# Text as bytes and back

The bytes of a text are the bytes of its characters, one after another. Reading takes the first
character off such bytes, and so gives the text back.
-/

namespace ByteArray

theorem toList_loop_eq_append (bytes : ByteArray) (i : Nat) (done : List UInt8) :
    toList.loop bytes i done = done.reverse ++ bytes.data.toList.drop i := by
  fun_induction toList.loop bytes i done with
  | case1 i done h ih =>
    have hi : i < bytes.data.toList.length := by simpa using h
    have hget : bytes.get! i = bytes.data.toList[i] := by
      rw [Array.getElem_toList]
      exact getElem!_pos bytes.data i (by simpa using hi)
    rw [ih, List.drop_eq_getElem_cons hi, hget, List.reverse_cons, List.append_assoc,
      List.singleton_append]
  | case2 i done h =>
    have hi : bytes.data.toList.length ≤ i := by simpa using h
    simp [List.drop_eq_nil_of_le hi]

theorem toList_eq_toList_data (bytes : ByteArray) : bytes.toList = bytes.data.toList := by
  simp [toList, toList_loop_eq_append]

end ByteArray

namespace RecordScript.Text

/-- The bytes that spell some characters. -/
def encodeChars (cs : List Char) : List UInt8 := cs.flatMap String.utf8EncodeChar

@[simp]
theorem encodeChars_nil : encodeChars [] = [] := rfl

@[simp]
theorem encodeChars_cons (c : Char) (cs : List Char) :
    encodeChars (c :: cs) = String.utf8EncodeChar c ++ encodeChars cs := rfl

@[simp]
theorem encodeChars_append (cs ds : List Char) :
    encodeChars (cs ++ ds) = encodeChars cs ++ encodeChars ds := List.flatMap_append

theorem encodeUtf8_ofList (cs : List Char) : encodeUtf8 (String.ofList cs) = encodeChars cs := by
  simp [encodeUtf8, String.toUTF8_eq_toByteArray, String.toByteArray_ofList, List.utf8Encode,
    ByteArray.toList_eq_toList_data, encodeChars]

/-! ## The first character -/

theorem toNat_ofNat_of_lt {n : Nat} (h : n < 256) : (UInt8.ofNat n).toNat = n := by
  rw [UInt8.toNat_ofNat', Nat.mod_eq_of_lt h]

theorem continuation?_ofNat {x : Nat} (h : x < 64) :
    continuation? (UInt8.ofNat (x + 128)) = some x := by
  simp only [continuation?, UInt8.le_iff_toNat_le, UInt8.lt_iff_toNat_lt,
    toNat_ofNat_of_lt (show x + 128 < 256 by omega)]
  simp [show x + 128 < 192 by omega]

theorem charAtLeast?_toNat {c : Char} {least : Nat} (h : least ≤ c.toNat) :
    charAtLeast? least c.toNat = some c := by
  have hc : c.toNat.isValidChar := c.valid
  rw [charAtLeast?, dif_pos hc, if_pos h]
  rfl

variable {x y z w : Nat} {rest : List UInt8}

theorem firstChar?_one (hx : x < 128) :
    firstChar? (UInt8.ofNat x :: rest) = some (Char.ofNat x, 1) := by
  simp only [firstChar?, UInt8.lt_iff_toNat_lt, toNat_ofNat_of_lt (show x < 256 by omega)]
  simp [hx]

theorem firstChar?_two (hx : x < 32) (hy : y < 64) :
    firstChar? (UInt8.ofNat (x + 192) :: UInt8.ofNat (y + 128) :: rest) =
      (charAtLeast? 0x80 (x * 64 + y)).map (·, 2) := by
  simp only [firstChar?, UInt8.lt_iff_toNat_lt, UInt8.le_iff_toNat_le,
    toNat_ofNat_of_lt (show x + 192 < 256 by omega), continuation?_ofNat hy]
  simp [show ¬ x + 192 < 128 by omega, show x + 192 < 224 by omega, Option.map_eq_bind,
    Function.comp_def]

theorem firstChar?_three (hx : x < 16) (hy : y < 64) (hz : z < 64) :
    firstChar? (UInt8.ofNat (x + 224) :: UInt8.ofNat (y + 128) :: UInt8.ofNat (z + 128) :: rest) =
      (charAtLeast? 0x800 ((x * 64 + y) * 64 + z)).map (·, 3) := by
  simp only [firstChar?, UInt8.lt_iff_toNat_lt, UInt8.le_iff_toNat_le,
    toNat_ofNat_of_lt (show x + 224 < 256 by omega), continuation?_ofNat hy, continuation?_ofNat hz]
  simp [show ¬ x + 224 < 128 by omega, show ¬ x + 224 < 224 by omega,
    show x + 224 < 240 by omega, Option.map_eq_bind, Function.comp_def]

theorem firstChar?_four (hx : x < 8) (hy : y < 64) (hz : z < 64) (hw : w < 64) :
    firstChar? (UInt8.ofNat (x + 240) :: UInt8.ofNat (y + 128) :: UInt8.ofNat (z + 128) ::
      UInt8.ofNat (w + 128) :: rest) =
      (charAtLeast? 0x10000 (((x * 64 + y) * 64 + z) * 64 + w)).map (·, 4) := by
  simp only [firstChar?, UInt8.lt_iff_toNat_lt, UInt8.le_iff_toNat_le,
    toNat_ofNat_of_lt (show x + 240 < 256 by omega), continuation?_ofNat hy,
    continuation?_ofNat hz, continuation?_ofNat hw]
  simp [show ¬ x + 240 < 128 by omega, show ¬ x + 240 < 224 by omega,
    show ¬ x + 240 < 240 by omega, show x + 240 < 248 by omega, Option.map_eq_bind,
    Function.comp_def]

theorem toNat_le_max (c : Char) : c.toNat ≤ 0x10FFFF := by
  have hc : c.toNat.isValidChar := c.valid
  simp only [Nat.isValidChar] at hc
  omega

/-- Reading takes off the first character what it was spelled with. -/
theorem firstChar?_utf8EncodeChar_append (c : Char) (rest : List UInt8) :
    firstChar? (String.utf8EncodeChar c ++ rest) =
      some (c, (String.utf8EncodeChar c).length) := by
  have hmax := toNat_le_max c
  have hn : c.val.toNat = c.toNat := rfl
  have low : c.toNat % 64 < 64 := Nat.mod_lt _ (by decide)
  have mid : c.toNat / 64 % 64 < 64 := Nat.mod_lt _ (by decide)
  have high : c.toNat / 4096 % 64 < 64 := Nat.mod_lt _ (by decide)
  simp only [String.utf8EncodeChar, hn]
  split
  · simp [firstChar?_one (show c.toNat < 128 by omega)]
  split
  · have hcode : c.toNat / 64 % 32 * 64 + c.toNat % 64 = c.toNat := by omega
    simp only [List.cons_append, List.nil_append, firstChar?_two (Nat.mod_lt _ (by decide)) low,
      hcode, charAtLeast?_toNat (show 0x80 ≤ c.toNat by omega)]
    rfl
  split
  · have hcode : (c.toNat / 4096 % 16 * 64 + c.toNat / 64 % 64) * 64 + c.toNat % 64 = c.toNat := by
      omega
    simp only [List.cons_append, List.nil_append,
      firstChar?_three (Nat.mod_lt _ (by decide)) mid low, hcode,
      charAtLeast?_toNat (show 0x800 ≤ c.toNat by omega)]
    rfl
  · have hcode : ((c.toNat / 262144 % 8 * 64 + c.toNat / 4096 % 64) * 64 + c.toNat / 64 % 64) * 64 +
        c.toNat % 64 = c.toNat := by omega
    simp only [List.cons_append, List.nil_append,
      firstChar?_four (Nat.mod_lt _ (by decide)) high mid low, hcode,
      charAtLeast?_toNat (show 0x10000 ≤ c.toNat by omega)]
    rfl

/-! ## The whole text -/

theorem decodeFrom_encodeChars (offset fuel : Nat) (cs : List Char) (h : cs.length ≤ fuel) :
    decodeFrom offset fuel (encodeChars cs) = .ok cs := by
  induction cs generalizing offset fuel with
  | nil => cases fuel <;> rfl
  | cons c cs ih =>
    obtain ⟨fuel, rfl⟩ : ∃ n, fuel = n + 1 := ⟨fuel - 1, by simp at h; omega⟩
    obtain ⟨b, bytes, hb⟩ := List.exists_cons_of_ne_nil (String.utf8EncodeChar_ne_nil (c := c))
    have hfirst := firstChar?_utf8EncodeChar_append c (encodeChars cs)
    have hdrop : (String.utf8EncodeChar c ++ encodeChars cs).drop
        (String.utf8EncodeChar c).length = encodeChars cs := List.drop_left
    rw [encodeChars_cons]
    rw [hb] at hfirst hdrop ⊢
    simp only [List.cons_append] at hfirst hdrop ⊢
    simp only [decodeFrom, hfirst, hdrop, ih _ fuel (by simpa using h)]
    rfl

theorem length_le_length_encodeChars (cs : List Char) : cs.length ≤ (encodeChars cs).length := by
  induction cs with
  | nil => exact Nat.le_refl 0
  | cons c cs ih =>
    have := List.length_pos_iff.mpr (String.utf8EncodeChar_ne_nil (c := c))
    simp only [encodeChars_cons, List.length_append, List.length_cons]
    omega

/-- A text is read from its bytes. -/
@[simp]
theorem decodeUtf8_encodeChars (cs : List Char) :
    decodeUtf8 (encodeChars cs) = .ok (String.ofList cs) := by
  rw [decodeUtf8, decodeFrom_encodeChars 0 _ cs (length_le_length_encodeChars cs)]
  rfl

/-! ## Bytes of one character -/

theorem utf8EncodeChar_of_lt {c : Char} (h : c.toNat < 128) :
    String.utf8EncodeChar c = [UInt8.ofNat c.toNat] := by
  have hn : c.val.toNat = c.toNat := rfl
  simp only [String.utf8EncodeChar, hn, if_pos (show c.toNat ≤ 127 by omega)]

/-- A byte below 128 is a character of its own. -/
theorem le_toNat_of_mem_utf8EncodeChar {c : Char} (h : 128 ≤ c.toNat) :
    ∀ b ∈ String.utf8EncodeChar c, 128 ≤ b.toNat := by
  have hn : c.val.toNat = c.toNat := rfl
  simp only [String.utf8EncodeChar, hn, if_neg (show ¬ c.toNat ≤ 127 by omega)]
  repeat' split
  all_goals
    simp only [List.mem_cons, List.not_mem_nil, or_false, forall_eq_or_imp, forall_eq,
      UInt8.toNat_ofNat']
    omega

/-- The byte of an ASCII character stands in no other character. -/
theorem eq_of_mem_utf8EncodeChar {c d : Char} (hd : d.toNat < 128)
    (h : UInt8.ofNat d.toNat ∈ String.utf8EncodeChar c) : c = d := by
  have hbyte := toNat_ofNat_of_lt (show d.toNat < 256 by omega)
  by_cases hc : c.toNat < 128
  · rw [utf8EncodeChar_of_lt hc, List.mem_singleton] at h
    have := congrArg UInt8.toNat h
    rw [hbyte, toNat_ofNat_of_lt (show c.toNat < 256 by omega)] at this
    exact Char.toNat_inj.mp this.symm
  · have := le_toNat_of_mem_utf8EncodeChar (by omega) _ h
    omega

/-- Characters whose bytes start with the bytes of a character start with that character. -/
theorem head?_eq_some_of_isPrefix {c : Char} {cs : List Char}
    (h : String.utf8EncodeChar c <+: encodeChars cs) : cs.head? = some c := by
  obtain ⟨rest, hrest⟩ := h
  have hfirst := firstChar?_utf8EncodeChar_append c rest
  rw [hrest] at hfirst
  cases cs with
  | nil => cases hfirst
  | cons d ds =>
    rw [encodeChars_cons, firstChar?_utf8EncodeChar_append] at hfirst
    simpa using congrArg (·.map Prod.fst) hfirst

end RecordScript.Text
