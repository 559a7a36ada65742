/-!
Decoding UTF-8 without refusing anything. Bytes that cannot begin or continue a character are replaced,
one replacement for every longest run of bytes that begins like a character and then breaks off.
-/

namespace AlbumBrowser.Text

/-- The character that stands for undecodable bytes. -/
def replacement : Char := '\uFFFD'

/-- A character of which the first bytes have been read. -/
structure Pending where
  /-- The bits read so far. -/
  bits : Nat
  /-- How many more bytes are needed, less one. -/
  more : Nat
  /-- The range of the next byte. -/
  low : UInt8
  high : UInt8

/-- What a byte gives at the start of a character. -/
def startByte (b : UInt8) : Char ⊕ Pending :=
  if b ≤ 0x7F then .inl (Char.ofNat b.toNat)
  else if 0xC2 ≤ b ∧ b ≤ 0xDF then .inr ⟨b.toNat - 0xC0, 0, 0x80, 0xBF⟩
  else if b = 0xE0 then .inr ⟨0, 1, 0xA0, 0xBF⟩
  else if b = 0xED then .inr ⟨0xD, 1, 0x80, 0x9F⟩
  else if 0xE1 ≤ b ∧ b ≤ 0xEF then .inr ⟨b.toNat - 0xE0, 1, 0x80, 0xBF⟩
  else if b = 0xF0 then .inr ⟨0, 2, 0x90, 0xBF⟩
  else if 0xF1 ≤ b ∧ b ≤ 0xF3 then .inr ⟨b.toNat - 0xF0, 2, 0x80, 0xBF⟩
  else if b = 0xF4 then .inr ⟨4, 2, 0x80, 0x8F⟩
  else .inl replacement

/-- What a byte in range gives after the first bytes of a character. -/
def Pending.extend (p : Pending) (b : UInt8) : Char ⊕ Pending :=
  let bits := 64 * p.bits + (b.toNat - 0x80)
  match p.more with
  | 0 => .inl (Char.ofNat bits)
  | more + 1 => .inr ⟨bits, more, 0x80, 0xBF⟩

/-- Decodes bytes behind the first bytes of a character, if there are any. -/
def decodeFrom : Option Pending → List UInt8 → List Char
  | none, [] => []
  | some _, [] => [replacement]
  | none, b :: rest =>
    match startByte b with
    | .inl c => c :: decodeFrom none rest
    | .inr p => decodeFrom (some p) rest
  | some p, b :: rest =>
    if p.low ≤ b ∧ b ≤ p.high then
      match p.extend b with
      | .inl c => c :: decodeFrom none rest
      | .inr p => decodeFrom (some p) rest
    else
      match startByte b with
      | .inl c => replacement :: c :: decodeFrom none rest
      | .inr p => replacement :: decodeFrom (some p) rest

/-- The text that bytes encode, with replacements. -/
def decodeLossy (bytes : List UInt8) : List Char := decodeFrom none bytes

/-- The bytes of a text. -/
def encode (s : List Char) : List UInt8 := s.flatMap String.utf8EncodeChar

end AlbumBrowser.Text
