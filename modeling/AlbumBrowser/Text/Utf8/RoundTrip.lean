import AlbumBrowser.Text.Utf8

/-!
Decoding undoes encoding. The first byte of a character fixes how many follow and the range of the second,
and the bytes of a character always keep to both, so that nothing is replaced.
-/

namespace AlbumBrowser.Text

theorem decodeFrom_one {v : Nat} (h : v ≤ 0x7F) (rest : List UInt8) :
    decodeFrom none (UInt8.ofNat v :: rest) = Char.ofNat v :: decodeFrom none rest := by
  have e : (UInt8.ofNat v).toNat = v := by simp; omega
  have hs : startByte (UInt8.ofNat v) = .inl (Char.ofNat v) := by
    simp only [startByte, UInt8.le_iff_toNat_le, e]
    rw [if_pos (by simpa using h)]
  simp only [decodeFrom, hs]

/-- A byte in range goes on with the character that has begun. -/
theorem decodeFrom_extend {p : Pending} {b : UInt8} (h : p.low ≤ b ∧ b ≤ p.high) (rest : List UInt8) :
    decodeFrom (some p) (b :: rest) =
      match p.extend b with
      | .inl c => c :: decodeFrom none rest
      | .inr p => decodeFrom (some p) rest := by
  cases he : p.extend b <;> simp [decodeFrom, h, he]

theorem toNat_continuation (n : Nat) : (UInt8.ofNat (n % 64 + 128)).toNat = n % 64 + 128 := by
  simp
  omega

theorem continuation_range (n : Nat) :
    (0x80 : UInt8) ≤ UInt8.ofNat (n % 64 + 128) ∧ UInt8.ofNat (n % 64 + 128) ≤ 0xBF := by
  simp only [UInt8.le_iff_toNat_le, toNat_continuation]
  simp
  omega

theorem extend_last (bits n : Nat) (low high : UInt8) :
    (Pending.mk bits 0 low high).extend (UInt8.ofNat (n % 64 + 128)) = .inl (Char.ofNat (64 * bits + n % 64)) := by
  simp only [Pending.extend, toNat_continuation, Nat.add_sub_cancel]

theorem extend_more (bits more n : Nat) (low high : UInt8) :
    (Pending.mk bits (more + 1) low high).extend (UInt8.ofNat (n % 64 + 128)) =
      .inr ⟨64 * bits + n % 64, more, 0x80, 0xBF⟩ := by
  simp only [Pending.extend, toNat_continuation, Nat.add_sub_cancel]

theorem decodeFrom_two {v : Nat} (h1 : 0x7F < v) (h2 : v ≤ 0x7FF) (rest : List UInt8) :
    decodeFrom none (UInt8.ofNat (v / 64 % 32 + 192) :: UInt8.ofNat (v % 64 + 128) :: rest) =
      Char.ofNat v :: decodeFrom none rest := by
  have e : (UInt8.ofNat (v / 64 % 32 + 192)).toNat = v / 64 + 192 := by simp; omega
  have hs : startByte (UInt8.ofNat (v / 64 % 32 + 192)) = .inr ⟨v / 64, 0, 0x80, 0xBF⟩ := by
    simp only [startByte, UInt8.le_iff_toNat_le, e]
    rw [if_neg (by simp), if_pos (by simp; omega)]
    simp
  rw [decodeFrom]
  simp only [hs]
  rw [decodeFrom_extend (continuation_range v), extend_last]
  simp only [show 64 * (v / 64) + v % 64 = v by omega]

theorem decodeFrom_three {v : Nat} (h1 : 0x7FF < v) (h2 : v ≤ 0xFFFF) (hs : v < 0xD800 ∨ 0xDFFF < v)
    (rest : List UInt8) :
    decodeFrom none (UInt8.ofNat (v / 4096 % 16 + 224) :: UInt8.ofNat (v / 64 % 64 + 128) ::
      UInt8.ofNat (v % 64 + 128) :: rest) = Char.ofNat v :: decodeFrom none rest := by
  have e : (UInt8.ofNat (v / 4096 % 16 + 224)).toNat = v / 4096 + 224 := by simp; omega
  have hstart : ∃ low high, startByte (UInt8.ofNat (v / 4096 % 16 + 224)) = .inr ⟨v / 4096, 1, low, high⟩ ∧
      low ≤ UInt8.ofNat (v / 64 % 64 + 128) ∧ UInt8.ofNat (v / 64 % 64 + 128) ≤ high := by
    simp only [startByte, UInt8.le_iff_toNat_le, ← UInt8.toNat_inj, e, toNat_continuation]
    rw [if_neg (by simp), if_neg (by simp)]
    by_cases hlow : v < 0x1000
    · rw [if_pos (by simp; omega)]
      exact ⟨0xA0, 0xBF, by simp; omega, by simp; omega, by simp; omega⟩
    · rw [if_neg (by simp; omega)]
      by_cases hhigh : 0xD000 ≤ v ∧ v < 0xE000
      · rw [if_pos (by simp; omega)]
        exact ⟨0x80, 0x9F, by simp; omega, by simp, by simp; omega⟩
      · rw [if_neg (by simp; omega), if_pos (by simp; omega)]
        exact ⟨0x80, 0xBF, by simp, by simp, by simp; omega⟩
  obtain ⟨low, high, hstart, hrange⟩ := hstart
  rw [decodeFrom]
  simp only [hstart]
  rw [decodeFrom_extend hrange, extend_more]
  simp only
  rw [decodeFrom_extend (continuation_range v), extend_last]
  simp only [show 64 * (64 * (v / 4096) + v / 64 % 64) + v % 64 = v by omega]

theorem decodeFrom_four {v : Nat} (h1 : 0xFFFF < v) (h2 : v < 0x110000) (rest : List UInt8) :
    decodeFrom none (UInt8.ofNat (v / 262144 % 8 + 240) :: UInt8.ofNat (v / 4096 % 64 + 128) ::
      UInt8.ofNat (v / 64 % 64 + 128) :: UInt8.ofNat (v % 64 + 128) :: rest) =
      Char.ofNat v :: decodeFrom none rest := by
  have e : (UInt8.ofNat (v / 262144 % 8 + 240)).toNat = v / 262144 + 240 := by simp; omega
  have hstart : ∃ low high, startByte (UInt8.ofNat (v / 262144 % 8 + 240)) = .inr ⟨v / 262144, 2, low, high⟩ ∧
      low ≤ UInt8.ofNat (v / 4096 % 64 + 128) ∧ UInt8.ofNat (v / 4096 % 64 + 128) ≤ high := by
    simp only [startByte, UInt8.le_iff_toNat_le, ← UInt8.toNat_inj, e, toNat_continuation]
    rw [if_neg (by simp), if_neg (by simp), if_neg (by simp), if_neg (by simp),
      if_neg (by simp)]
    by_cases hlow : v < 0x40000
    · rw [if_pos (by simp; omega)]
      exact ⟨0x90, 0xBF, by simp; omega, by simp; omega, by simp; omega⟩
    · rw [if_neg (by simp; omega)]
      by_cases hhigh : v < 0x100000
      · rw [if_pos (by simp; omega)]
        exact ⟨0x80, 0xBF, by simp, by simp, by simp; omega⟩
      · rw [if_neg (by simp; omega), if_pos (by simp; omega)]
        exact ⟨0x80, 0x8F, by simp; omega, by simp, by simp; omega⟩
  obtain ⟨low, high, hstart, hrange⟩ := hstart
  rw [decodeFrom]
  simp only [hstart]
  rw [decodeFrom_extend hrange, extend_more]
  simp only
  rw [decodeFrom_extend (continuation_range (v / 64)), extend_more]
  simp only
  rw [decodeFrom_extend (continuation_range v), extend_last]
  simp only [show 64 * (64 * (64 * (v / 262144) + v / 4096 % 64) + v / 64 % 64) + v % 64 = v by omega]

/-- The bytes of a character are decoded to it, whatever follows. -/
theorem decodeFrom_encodeChar (c : Char) (rest : List UInt8) :
    decodeFrom none (String.utf8EncodeChar c ++ rest) = c :: decodeFrom none rest := by
  have hvalid : c.toNat < 0xD800 ∨ 0xDFFF < c.toNat ∧ c.toNat < 0x110000 := c.valid
  conv => rhs; rw [← Char.ofNat_toNat c]
  simp only [String.utf8EncodeChar, show c.val.toNat = c.toNat from rfl]
  split
  · exact decodeFrom_one (by omega) rest
  · split
    · exact decodeFrom_two (by omega) (by omega) rest
    · split
      · exact decodeFrom_three (by omega) (by omega) (by omega) rest
      · exact decodeFrom_four (by omega) (by omega) rest

/-- A text is read back from its bytes without any replacement. -/
theorem decodeLossy_encode (s : List Char) : decodeLossy (encode s) = s := by
  unfold decodeLossy encode
  induction s with
  | nil => rfl
  | cons c rest ih => rw [List.flatMap_cons, decodeFrom_encodeChar, ih]

end AlbumBrowser.Text
