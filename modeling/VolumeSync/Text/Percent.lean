import VolumeSync.Text.Hex

-- Percent-encoding: a character that may not stand for itself is written
-- as its UTF-8 bytes, each as a percent sign and two digits.

namespace VolumeSync.Text.Percent

/-! ## Encoding -/

/-- A byte as a percent sign and two digits. -/
def byte (b : UInt8) : List Char :=
  ['%', upperHexDigit (b.toNat / 16), upperHexDigit (b.toNat % 16)]

/-- A character that may stand for itself does, and any other one is
written byte by byte. -/
def char (keep : Char → Bool) (c : Char) : List Char :=
  if keep c then [c] else (String.utf8EncodeChar c).flatMap byte

/-- Characters with only those left as they are that may stand for
themselves. -/
def encode (keep : Char → Bool) (cs : List Char) : List Char := cs.flatMap (char keep)

/-- The letters, digits and four marks that need no encoding anywhere. -/
def isUnreserved (c : Char) : Bool :=
  c.isAlphanum || c == '-' || c == '_' || c == '.' || c == '~'

/-! ## Decoding -/

/-- Bytes with every percent sign and two digits replaced by the byte that
they name. A percent sign without two digits stands for itself. -/
def decodeBytes : List UInt8 → List UInt8
  | 0x25 :: a :: b :: rest =>
    match hexValue? (Char.ofUInt8 a), hexValue? (Char.ofUInt8 b) with
    | some high, some low => UInt8.ofNat (16 * high + low) :: decodeBytes rest
    | _, _ => 0x25 :: decodeBytes (a :: b :: rest)
  | b :: rest => b :: decodeBytes rest
  | [] => []

/-- The text that an encoded text stands for, if its bytes are UTF-8. -/
def decode? (cs : List Char) : Option (List Char) :=
  (String.fromUTF8? ⟨(decodeBytes (cs.flatMap String.utf8EncodeChar)).toArray⟩).map (·.toList)

end VolumeSync.Text.Percent
