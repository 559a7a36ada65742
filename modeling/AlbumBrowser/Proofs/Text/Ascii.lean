import AlbumBrowser.Text.Utf8

/-!
ASCII inside UTF-8. A character below 128 is one byte, its own number, and this byte is part of no other
character. So a reader of bytes meets it even where the bytes before it break off in the middle of a character, and
two strings of bytes that part at bytes of ASCII never stand for one text, however much in them is replaced.
-/

namespace AlbumBrowser.Text

/-- Bytes are the numbers below 256. -/
theorem forall_byte {P : UInt8 → Prop} (h : ∀ n < 256, P (UInt8.ofNat n)) (b : UInt8) : P b := by
  have hb := h b.toNat b.toNat_lt
  rwa [UInt8.ofNat_toNat] at hb

/-! ### Encoding -/

/-- What holds of the characters of ASCII is checked number by number. -/
theorem forall_ascii {P : Char → Prop} (h : ∀ n < 128, P (Char.ofNat n)) {c : Char} (hc : c.toNat < 128) : P c := by
  have hn := h c.toNat hc
  rwa [Char.ofNat_toNat] at hn

theorem encodeChar_of_lt {c : Char} (hc : c.toNat < 128) : String.utf8EncodeChar c = [c.toUInt8] :=
  forall_ascii (P := fun c => String.utf8EncodeChar c = [c.toUInt8]) (by decide +kernel) hc

theorem le_of_mem_encodeChar {c : Char} (hc : 128 ≤ c.toNat) {b : UInt8} (hb : b ∈ String.utf8EncodeChar c) :
    0x80 ≤ b := by
  have hone : ¬ c.val.toNat ≤ 0x7F := by
    change ¬ c.toNat ≤ 0x7F
    omega
  rw [UInt8.le_iff_toNat_le]
  simp only [String.utf8EncodeChar, if_neg hone] at hb
  -- The bytes of a longer character are a sum with at least 128 in each place.
  split at hb
  · simp only [List.mem_cons, List.not_mem_nil, or_false] at hb
    rcases hb with rfl | rfl <;> simp <;> omega
  · split at hb
    · simp only [List.mem_cons, List.not_mem_nil, or_false] at hb
      rcases hb with rfl | rfl | rfl <;> simp <;> omega
    · simp only [List.mem_cons, List.not_mem_nil, or_false] at hb
      rcases hb with rfl | rfl | rfl | rfl <;> simp <;> omega

theorem encode_append (s t : List Char) : encode (s ++ t) = encode s ++ encode t := List.flatMap_append

theorem encode_cons (c : Char) (s : List Char) : encode (c :: s) = String.utf8EncodeChar c ++ encode s :=
  List.flatMap_cons

theorem encode_cons_of_lt {c : Char} (hc : c.toNat < 128) (s : List Char) :
    encode (c :: s) = c.toUInt8 :: encode s := by
  rw [encode_cons, encodeChar_of_lt hc]
  rfl

theorem ofNat_toUInt8 {c : Char} (hc : c.toNat < 128) : Char.ofNat c.toUInt8.toNat = c :=
  forall_ascii (P := fun c => Char.ofNat c.toUInt8.toNat = c) (by decide +kernel) hc

theorem toUInt8_ofNat : ∀ b : UInt8, b < 0x80 → (Char.ofNat b.toNat).toUInt8 = b :=
  forall_byte (by decide +kernel)

theorem lt_of_ofNat_lt : ∀ b : UInt8, (Char.ofNat b.toNat).toNat < 128 → b < 0x80 :=
  forall_byte (by decide +kernel)

/-- A byte of ASCII at the front of a text is its first character. -/
theorem eq_cons_of_encode_eq_cons {s : List Char} {b : UInt8} {bytes : List UInt8} (h : encode s = b :: bytes)
    (hb : b < 0x80) : ∃ rest, s = Char.ofNat b.toNat :: rest ∧ bytes = encode rest := by
  cases s with
  | nil => cases h
  | cons c rest =>
      by_cases hc : c.toNat < 128
      · rw [encode_cons_of_lt hc] at h
        obtain ⟨rfl, rfl⟩ := List.cons.inj h
        exact ⟨rest, by rw [ofNat_toUInt8 hc], rfl⟩
      · obtain ⟨first, others, hbytes⟩ := List.exists_cons_of_ne_nil (String.utf8EncodeChar_ne_nil (c := c))
        rw [encode_cons, hbytes] at h
        obtain ⟨rfl, -⟩ := List.cons.inj h
        have hfirst := le_of_mem_encodeChar (Nat.le_of_not_lt hc) (hbytes ▸ List.mem_cons_self)
        rw [UInt8.le_iff_toNat_le] at hfirst
        rw [UInt8.lt_iff_toNat_lt] at hb
        omega

/-! ### Decoding -/

/-- The byte that is awaited, if one is, cannot be of ASCII. -/
def Awaits (p : Option Pending) : Prop := ∀ q, p = some q → 0x80 ≤ q.low

theorem awaits_none : Awaits none := fun _ h => nomatch h

theorem awaits_of_startByte {b : UInt8} {q : Pending} (h : startByte b = .inr q) : Awaits (some q) := by
  have hall : ∀ b, ∀ q ∈ (startByte b).getRight?, 0x80 ≤ q.low := forall_byte (by decide +kernel)
  rintro _ ⟨rfl⟩
  refine hall b q ?_
  rw [h]
  rfl

theorem awaits_of_extend {p : Pending} {b : UInt8} {q : Pending} (h : p.extend b = .inr q) : Awaits (some q) := by
  rintro _ ⟨rfl⟩
  unfold Pending.extend at h
  split at h
  · exact absurd h Sum.inl_ne_inr
  · rw [← Sum.inr.inj h]
    exact UInt8.le_refl 0x80

/-- Reading a byte gives some characters, and then what follows is read as from a state of its own. -/
theorem exists_decodeFrom_cons {p : Option Pending} (b : UInt8) (hp : Awaits p) : ∃ read next, Awaits next ∧
    ∀ rest, decodeFrom p (b :: rest) = read ++ decodeFrom next rest := by
  cases p with
  | none =>
      cases hstart : startByte b with
      | inl c => exact ⟨[c], none, awaits_none, fun rest => by simp only [decodeFrom, hstart, List.singleton_append]⟩
      | inr q =>
          exact ⟨[], some q, awaits_of_startByte hstart, fun rest => by simp only [decodeFrom, hstart, List.nil_append]⟩
  | some p =>
      by_cases hrange : p.low ≤ b ∧ b ≤ p.high
      · cases hextend : p.extend b with
        | inl c =>
            refine ⟨[c], none, awaits_none, fun rest => ?_⟩
            simp only [decodeFrom, if_pos hrange, hextend, List.singleton_append]
        | inr q =>
            refine ⟨[], some q, awaits_of_extend hextend, fun rest => ?_⟩
            simp only [decodeFrom, if_pos hrange, hextend, List.nil_append]
      · cases hstart : startByte b with
        | inl c =>
            refine ⟨[replacement, c], none, awaits_none, fun rest => ?_⟩
            simp only [decodeFrom, if_neg hrange, hstart, List.cons_append, List.nil_append]
        | inr q =>
            refine ⟨[replacement], some q, awaits_of_startByte hstart, fun rest => ?_⟩
            simp only [decodeFrom, if_neg hrange, hstart, List.cons_append, List.nil_append]

/-- A byte of ASCII breaks off a character that has begun and is read by itself. -/
theorem decodeFrom_ascii {p : Option Pending} {b : UInt8} (hp : Awaits p) (hb : b < 0x80) (rest : List UInt8) :
    decodeFrom p (b :: rest) = decodeFrom p [] ++ Char.ofNat b.toNat :: decodeFrom none rest := by
  have hstart : startByte b = .inl (Char.ofNat b.toNat) := by
    refine if_pos ?_
    rw [UInt8.lt_iff_toNat_lt] at hb
    rw [UInt8.le_iff_toNat_le]
    exact Nat.le_of_lt_succ hb
  cases p with
  | none => simp only [decodeFrom, hstart, List.nil_append]
  | some p =>
      have hrange : ¬ (p.low ≤ b ∧ b ≤ p.high) := by
        rintro ⟨hlow, -⟩
        exact absurd (UInt8.lt_of_lt_of_le hb (hp p rfl)) (UInt8.not_lt.mpr hlow)
      simp only [decodeFrom, if_neg hrange, hstart, List.cons_append, List.nil_append]

/-- A byte of ASCII stands for its character wherever it is, and parts what is before it from what follows. -/
theorem decodeLossy_append_ascii {b : UInt8} (hb : b < 0x80) (front rest : List UInt8) :
    decodeLossy (front ++ b :: rest) = decodeLossy front ++ Char.ofNat b.toNat :: decodeLossy rest := by
  have hfrom : ∀ p, Awaits p →
      decodeFrom p (front ++ b :: rest) = decodeFrom p front ++ Char.ofNat b.toNat :: decodeFrom none rest := by
    induction front with
    | nil => exact fun p hp => decodeFrom_ascii hp hb rest
    | cons first front ih =>
        intro p hp
        obtain ⟨read, next, hnext, hread⟩ := exists_decodeFrom_cons first hp
        rw [List.cons_append, hread, hread, ih next hnext, List.append_assoc]
  exact hfrom none awaits_none

/-- Strings of bytes that part at different bytes of ASCII are read as different texts. -/
theorem decodeLossy_ne {a b : UInt8} (ha : a < 0x80) (hb : b < 0x80) (hne : a ≠ b) (front s t : List UInt8) :
    decodeLossy (front ++ a :: s) ≠ decodeLossy (front ++ b :: t) := by
  rw [decodeLossy_append_ascii ha, decodeLossy_append_ascii hb, Ne, List.append_cancel_left_eq]
  intro h
  apply hne
  rw [← toUInt8_ofNat a ha, ← toUInt8_ofNat b hb, (List.cons.inj h).1]

end AlbumBrowser.Text
