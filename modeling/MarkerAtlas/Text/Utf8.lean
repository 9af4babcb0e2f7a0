/-!
# UTF-8

Bytes read as text. Where the bytes are not UTF-8, the longest start of a character that is
there counts as one replacement character.
-/

namespace MarkerAtlas.Text

/-- What stands for bytes that are no character. -/
def replacementChar : Char := Char.ofNat 0xFFFD

/-- What the first byte of a character of several bytes says: how many bytes follow, the bits
that it holds itself, and the bounds of the second byte. -/
structure LeadByte where
  following : Nat
  bits : Nat
  least : Nat
  greatest : Nat

/-- The reading of a first byte. Bounds keep out what has a shorter form, surrogates, and what
lies beyond the last code point. -/
def leadByte? (b : Nat) : Option LeadByte :=
  if 0xC2 ≤ b ∧ b ≤ 0xDF then some ⟨1, b - 0xC0, 0x80, 0xBF⟩
  else if b = 0xE0 then some ⟨2, 0, 0xA0, 0xBF⟩
  else if b = 0xED then some ⟨2, 0xD, 0x80, 0x9F⟩
  else if 0xE1 ≤ b ∧ b ≤ 0xEF then some ⟨2, b - 0xE0, 0x80, 0xBF⟩
  else if b = 0xF0 then some ⟨3, 0, 0x90, 0xBF⟩
  else if 0xF1 ≤ b ∧ b ≤ 0xF3 then some ⟨3, b - 0xF0, 0x80, 0xBF⟩
  else if b = 0xF4 then some ⟨3, 4, 0x80, 0x8F⟩
  else none

/-- The character whose last `following` bytes are still to come, and how many bytes were taken
for it; the next byte has to lie within the bounds. -/
def continueChar (bits : Nat) :
    (following taken least greatest : Nat) → List UInt8 → Char × Nat
  | 0, taken, _, _, _ => (Char.ofNat bits, taken)
  | _ + 1, taken, _, _, [] => (replacementChar, taken)
  | n + 1, taken, least, greatest, b :: bs =>
    if least ≤ b.toNat ∧ b.toNat ≤ greatest then
      continueChar (bits * 64 + (b.toNat - 0x80)) n (taken + 1) 0x80 0xBF bs
    else (replacementChar, taken)

/-- The character in front, and how many bytes after the first belong to it. -/
def firstChar (b : UInt8) (rest : List UInt8) : Char × Nat :=
  if b < 0x80 then (Char.ofNat b.toNat, 0)
  else
    match leadByte? b.toNat with
    | none => (replacementChar, 0)
    | some l => continueChar l.bits l.following 0 l.least l.greatest rest

/-- Reads bytes, the first `skip` of which belong to a character that was read before. -/
def decodeUtf8From : (skip : Nat) → List UInt8 → List Char
  | _, [] => []
  | skip + 1, _ :: bs => decodeUtf8From skip bs
  | 0, b :: bs =>
    let (c, taken) := firstChar b bs
    c :: decodeUtf8From taken bs

/-- The text that bytes write. -/
def decodeUtf8 (bs : List UInt8) : String := String.ofList (decodeUtf8From 0 bs)

end MarkerAtlas.Text
