/-!
# Bytes as text

Reading bytes in the encoding UTF-8. Bytes that are no text are refused with the place of the first
byte that belongs to no character.
-/

namespace RecordScript.Text

/-- The payload of a continuation byte. -/
def continuation? (b : UInt8) : Option Nat :=
  if 0x80 ≤ b ∧ b < 0xC0 then some (b.toNat - 0x80) else none

/-- The character with the code `n`, refused below `least` because a shorter form exists, and where
no character has that code. -/
def charAtLeast? (least n : Nat) : Option Char :=
  if h : n.isValidChar then
    if least ≤ n then some (Char.ofNatAux n h) else none
  else none

/-- The first character of a sequence of bytes, with the number of bytes it takes. -/
def firstChar? : List UInt8 → Option (Char × Nat)
  | [] => none
  | b :: rest =>
    if b < 0x80 then some (Char.ofNat b.toNat, 1)
    else if 0xC0 ≤ b ∧ b < 0xE0 then
      match rest with
      | c :: _ => do
        let x ← continuation? c
        let char ← charAtLeast? 0x80 ((b.toNat - 0xC0) * 0x40 + x)
        return (char, 2)
      | [] => none
    else if 0xE0 ≤ b ∧ b < 0xF0 then
      match rest with
      | c :: d :: _ => do
        let x ← continuation? c
        let y ← continuation? d
        let char ← charAtLeast? 0x800 (((b.toNat - 0xE0) * 0x40 + x) * 0x40 + y)
        return (char, 3)
      | _ => none
    else if 0xF0 ≤ b ∧ b < 0xF8 then
      match rest with
      | c :: d :: e :: _ => do
        let x ← continuation? c
        let y ← continuation? d
        let z ← continuation? e
        let char ← charAtLeast? 0x10000
          ((((b.toNat - 0xF0) * 0x40 + x) * 0x40 + y) * 0x40 + z)
        return (char, 4)
      | _ => none
    else none

/-- The characters that the bytes spell, read with at most `fuel` steps from the offset `at`; an
error holds the offset of the first byte that belongs to no character. -/
def decodeFrom (offset : Nat) : Nat → List UInt8 → Except Nat (List Char)
  | _, [] => .ok []
  | 0, _ :: _ => .error offset
  | fuel + 1, bytes@(_ :: _) =>
    match firstChar? bytes with
    | none => .error offset
    | some (c, n) => do
      let cs ← decodeFrom (offset + n) fuel (bytes.drop n)
      return c :: cs

/-- The text that the bytes spell; an error holds the offset of the first byte that belongs to no
character. -/
def decodeUtf8 (bytes : List UInt8) : Except Nat String :=
  (decodeFrom 0 bytes.length bytes).map String.ofList

/-- The bytes that spell a text. -/
def encodeUtf8 (s : String) : List UInt8 := s.toUTF8.toList

end RecordScript.Text
