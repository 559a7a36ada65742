import AlbumBrowser.Proofs.Web.Encoding

/-!
What a component of a query stands for. In a form's address a plus sign is a space, a percent sign with two hexadecimal
digits is the byte that these write, and every other character is its own bytes. Components are decoded byte by byte and
not character by character, but this makes no difference, since an escape is written in ASCII. What does make one is that
the digits are read as a number, in front of which a plus sign may stand: a percent sign, a plus sign and a single digit
are an escape as well. Exactly the components with such an escape are decoded to other texts than in a form.
-/

namespace AlbumBrowser

namespace Text

/-- A hexadecimal digit of either case and its value. -/
def SpellsHex (n : Nat) (c : Char) : Prop := n < 16 ∧ c.toLower = Nat.digitChar n

instance (n : Nat) (c : Char) : Decidable (SpellsHex n c) := inferInstanceAs (Decidable (_ ∧ _))

theorem SpellsHex.toNat_lt {n : Nat} {c : Char} (h : SpellsHex n c) : c.toNat < 128 := by
  obtain ⟨hn, hc⟩ := h
  have hdigit : ∀ k < 16, (Nat.digitChar k).toNat < 128 := by decide
  unfold Char.toLower at hc
  split at hc
  · rename_i hupper
    exact Nat.lt_of_le_of_lt (UInt32.le_iff_toNat_le.mp hupper.2) (by decide)
  · rw [hc]
    exact hdigit n hn

theorem toNat_lt_of_hexValue {n : Nat} {c : Char} (h : hexValue c = some n) : c.toNat < 128 := by
  have hbound : ∀ {d : Char}, d.toNat < 128 → c ≤ d → c.toNat < 128 := by
    intro d hd hc
    exact Nat.lt_of_le_of_lt (UInt32.le_iff_toNat_le.mp hc) hd
  unfold hexValue at h
  split at h
  · rename_i hdigit
    simp only [Char.isDigit, Bool.and_eq_true, decide_eq_true_eq] at hdigit
    exact hbound (d := '9') (by decide) hdigit.2
  · split at h
    · rename_i hletter
      exact hbound (d := 'f') (by decide) hletter.2
    · split at h
      · rename_i hletter
        exact hbound (d := 'F') (by decide) hletter.2
      · cases h

theorem hexValue_eq_some_iff {n : Nat} {c : Char} : hexValue c = some n ↔ SpellsHex n c := by
  have hascii : ∀ k < 128, (∀ n ∈ hexValue (Char.ofNat k), n < 16) ∧
      ∀ n < 16, hexValue (Char.ofNat k) = some n ↔ SpellsHex n (Char.ofNat k) := by
    decide +kernel
  constructor
  · intro h
    have hc := toNat_lt_of_hexValue h
    obtain ⟨hbound, hvalue⟩ := hascii c.toNat hc
    rw [Char.ofNat_toNat] at hbound hvalue
    exact (hvalue n (hbound n h)).mp h
  · intro h
    obtain ⟨-, hvalue⟩ := hascii c.toNat h.toNat_lt
    rw [Char.ofNat_toNat] at hvalue
    exact (hvalue n h.1).mpr h

theorem SpellsHex.unique {m n : Nat} {c : Char} (hm : SpellsHex m c) (hn : SpellsHex n c) : m = n :=
  Option.some.inj ((hexValue_eq_some_iff.mpr hm).symm.trans (hexValue_eq_some_iff.mpr hn))

theorem not_spellsHex {c : Char} (h : hexValue c = none) (n : Nat) : ¬ SpellsHex n c := by
  rw [← hexValue_eq_some_iff, h]
  exact fun hn => Option.some_ne_none n hn.symm

end Text

namespace Web

open Text

variable {Escape : Char → Char → UInt8 → Prop} {s : List Char} {bytes : List UInt8}

/-! ### Forms -/

/-- The two digits of an escape and the byte that they write. -/
inductive TwoDigits : Char → Char → UInt8 → Prop
  | digits {high low : Char} {m n : Nat} (hm : SpellsHex m high) (hn : SpellsHex n low) :
      TwoDigits high low (UInt8.ofNat (16 * m + n))

/-- The escapes that are decoded: in place of the first digit a plus sign may stand. -/
inductive SignedDigits : Char → Char → UInt8 → Prop
  | digits {high low : Char} {b : UInt8} (h : TwoDigits high low b) : SignedDigits high low b
  | plus {low : Char} {n : Nat} (hn : SpellsHex n low) : SignedDigits '+' low (UInt8.ofNat n)

/-- An escape stands at the front of a text. -/
def Begins (Escape : Char → Char → UInt8 → Prop) (s : List Char) : Prop :=
  ∃ high low b rest, s = '%' :: high :: low :: rest ∧ Escape high low b

/-- The bytes that a text of a form stands for, with what counts as an escape behind a percent sign. -/
inductive Decodes (Escape : Char → Char → UInt8 → Prop) : List Char → List UInt8 → Prop
  | nil : Decodes Escape [] []
  | escape {high low : Char} {b : UInt8} {s : List Char} {bytes : List UInt8} (hb : Escape high low b)
      (h : Decodes Escape s bytes) : Decodes Escape ('%' :: high :: low :: s) (b :: bytes)
  | plus {s : List Char} {bytes : List UInt8} (h : Decodes Escape s bytes) : Decodes Escape ('+' :: s) (0x20 :: bytes)
  | plain {c : Char} {s : List Char} {bytes : List UInt8} (hplus : c ≠ '+') (hescape : ¬ Begins Escape (c :: s))
      (h : Decodes Escape s bytes) : Decodes Escape (c :: s) (String.utf8EncodeChar c ++ bytes)

/-- Every text of a form stands for some bytes, whatever its percent signs are followed by. -/
theorem exists_decodes (Escape : Char → Char → UInt8 → Prop) (s : List Char) : ∃ bytes, Decodes Escape s bytes := by
  -- On the length, since an escape takes three characters at once.
  induction hlength : s.length using Nat.strong_induction_on generalizing s with
  | _ length ih =>
      have hshorter : ∀ t : List Char, t.length < s.length → ∃ bytes, Decodes Escape t bytes :=
        fun t ht => ih t.length (hlength ▸ ht) t rfl
      by_cases hbegins : Begins Escape s
      · obtain ⟨high, low, b, rest, rfl, hb⟩ := hbegins
        obtain ⟨bytes, hbytes⟩ := hshorter rest (by simp only [List.length_cons]; omega)
        exact ⟨_, .escape hb hbytes⟩
      · cases s with
        | nil => exact ⟨[], .nil⟩
        | cons c rest =>
            obtain ⟨bytes, hbytes⟩ := hshorter rest (by simp)
            by_cases hplus : c = '+'
            · subst hplus
              exact ⟨_, .plus hbytes⟩
            · exact ⟨_, .plain hplus hbegins hbytes⟩

/-- An escape writes one byte. -/
def Single (Escape : Char → Char → UInt8 → Prop) : Prop :=
  ∀ high low b b', Escape high low b → Escape high low b' → b = b'

/-! ### Taking a text apart -/

theorem Decodes.of_escape (hsingle : Single Escape) {high low : Char} {b : UInt8} (hb : Escape high low b)
    (h : Decodes Escape ('%' :: high :: low :: s) bytes) : ∃ rest, bytes = b :: rest ∧ Decodes Escape s rest := by
  cases h with
  | escape hb' h => exact ⟨_, by rw [hsingle _ _ _ _ hb hb'], h⟩
  | plain _ hescape => exact absurd ⟨high, low, b, s, rfl, hb⟩ hescape

theorem Decodes.of_plus (h : Decodes Escape ('+' :: s) bytes) : ∃ rest, bytes = 0x20 :: rest ∧ Decodes Escape s rest := by
  cases h with
  | plus h => exact ⟨_, rfl, h⟩
  | plain hplus => exact absurd rfl hplus

theorem Decodes.of_plain {c : Char} (hplus : c ≠ '+') (hescape : ¬ Begins Escape (c :: s))
    (h : Decodes Escape (c :: s) bytes) : ∃ rest, bytes = String.utf8EncodeChar c ++ rest ∧ Decodes Escape s rest := by
  cases h with
  | escape hb => exact absurd ⟨_, _, _, _, rfl, hb⟩ hescape
  | plus => exact absurd rfl hplus
  | plain _ _ h => exact ⟨_, rfl, h⟩

theorem Decodes.unique (hsingle : Single Escape) {bytes' : List UInt8} (h : Decodes Escape s bytes)
    (h' : Decodes Escape s bytes') : bytes = bytes' := by
  induction h generalizing bytes' with
  | nil =>
      cases h'
      rfl
  | escape hb _ ih =>
      obtain ⟨rest, rfl, hrest⟩ := h'.of_escape hsingle hb
      rw [ih hrest]
  | plus _ ih =>
      obtain ⟨rest, rfl, hrest⟩ := h'.of_plus
      rw [ih hrest]
  | plain hplus hescape _ ih =>
      obtain ⟨rest, rfl, hrest⟩ := h'.of_plain hplus hescape
      rw [ih hrest]

theorem Decodes.iff_eq (hsingle : Single Escape) (h : Decodes Escape s bytes) (other : List UInt8) :
    Decodes Escape s other ↔ other = bytes :=
  ⟨fun hother => hother.unique hsingle h, fun heq => heq ▸ h⟩

/-! ### What is decoded -/

theorem single_twoDigits : Single TwoDigits := by
  rintro high low _ _ ⟨hm, hn⟩ ⟨hm', hn'⟩
  rw [hm.unique hm', hn.unique hn']

theorem single_signedDigits : Single SignedDigits := by
  rintro high low b b' h h'
  cases h with
  | digits h =>
      cases h' with
      | digits h' => exact single_twoDigits _ _ _ _ h h'
      | plus =>
          obtain ⟨hm, -⟩ := h
          exact absurd hm (not_spellsHex rfl _)
  | plus hn =>
      cases h' with
      | digits h' =>
          obtain ⟨hm, -⟩ := h'
          exact absurd hm (not_spellsHex rfl _)
      | plus hn' => rw [hn.unique hn']

theorem signedDigits_of_percentByte? {high low b : UInt8} (h : percentByte? high low = some b) :
    SignedDigits (Char.ofNat high.toNat) (Char.ofNat low.toNat) b := by
  obtain ⟨n, hn, hbyte⟩ := Option.bind_eq_some_iff.mp h
  rw [hexValue_eq_some_iff] at hn
  split at hbyte
  · rename_i hplus
    cases hbyte
    rw [hplus]
    exact .plus hn
  · obtain ⟨m, hm, hbyte⟩ := Option.bind_eq_some_iff.mp hbyte
    rw [hexValue_eq_some_iff] at hm
    cases hbyte
    exact .digits ⟨hm, hn⟩

/-- What is written in an escape is ASCII. -/
theorem SignedDigits.ascii {high low : Char} {b : UInt8} (h : SignedDigits high low b) :
    high.toNat < 128 ∧ low.toNat < 128 := by
  cases h with
  | digits h =>
      obtain ⟨hm, hn⟩ := h
      exact ⟨hm.toNat_lt, hn.toNat_lt⟩
  | plus hn => exact ⟨by decide, hn.toNat_lt⟩

theorem percentByte?_of_signedDigits {high low : Char} {b : UInt8} (h : SignedDigits high low b) :
    percentByte? high.toUInt8 low.toUInt8 = some b := by
  obtain ⟨hhigh, hlow⟩ := h.ascii
  cases h with
  | digits h =>
      obtain ⟨hm, hn⟩ := h
      have hplus : high.toUInt8 ≠ 0x2B := by
        intro hplus
        rw [← ofNat_toUInt8 hhigh, hplus] at hm
        exact not_spellsHex rfl _ hm
      simp only [percentByte?, ofNat_toUInt8 hhigh, ofNat_toUInt8 hlow, hexValue_eq_some_iff.mpr hm,
        hexValue_eq_some_iff.mpr hn, if_neg hplus]
      rfl
  | plus hn =>
      simp only [percentByte?, ofNat_toUInt8 hlow, hexValue_eq_some_iff.mpr hn]
      rfl

theorem percentDecode_append_of_plain {front : List UInt8} (h : ∀ b ∈ front, b ≠ 0x25 ∧ b ≠ 0x2B) (rest : List UInt8) :
    percentDecode (front ++ rest) = front ++ percentDecode rest := by
  induction front with
  | nil => rfl
  | cons b front ih =>
      obtain ⟨⟨hpercent, hplus⟩, hfront⟩ := List.forall_mem_cons.mp h
      rw [List.cons_append, percentDecode_cons_of_ne hpercent, ih hfront, plainByte, if_neg hplus]
      rfl

/-- A percent sign without an escape behind it stands for itself. -/
theorem percentDecode_percent {rest : List UInt8}
    (h : ∀ high low behind, rest = high :: low :: behind → percentByte? high low = none) :
    percentDecode (0x25 :: rest) = 0x25 :: percentDecode rest := by
  match rest with
  | [] | [_] => rfl
  | high :: low :: behind =>
      simp only [percentDecode, if_true, h high low behind rfl]
      rfl

/-- The characters of a text that are neither plus nor percent signs have none of these among their bytes. -/
theorem plain_of_mem_encodeChar {c : Char} (hplus : c ≠ '+') (hpercent : c ≠ '%') :
    ∀ b ∈ String.utf8EncodeChar c, b ≠ 0x25 ∧ b ≠ 0x2B := by
  intro b hb
  by_cases hc : c.toNat < 128
  · rw [encodeChar_of_lt hc, List.mem_singleton] at hb
    rw [hb]
    refine ⟨fun h => hpercent ?_, fun h => hplus ?_⟩ <;> rw [← ofNat_toUInt8 hc, h] <;> rfl
  · have hlow := le_of_mem_encodeChar (Nat.le_of_not_lt hc) hb
    constructor <;> rintro rfl <;> exact absurd hlow (by decide)

theorem percentDecode_of_decodes (h : Decodes SignedDigits s bytes) : percentDecode (encode s) = bytes := by
  induction h with
  | nil => rfl
  | @escape high low b s bytes hb _ ih =>
      obtain ⟨hhigh, hlow⟩ := hb.ascii
      rw [encode_cons_of_lt (by decide), encode_cons_of_lt hhigh, encode_cons_of_lt hlow, ← ih]
      exact percentDecode_escape (percentByte?_of_signedDigits hb) (encode s)
  | @plus s bytes _ ih =>
      rw [encode_cons_of_lt (by decide), percentDecode_cons_of_ne (by decide), ih]
      rfl
  | @plain c s bytes hplus hescape _ ih =>
      by_cases hpercent : c = '%'
      · subst hpercent
        rw [encode_cons_of_lt (by decide), ← ih]
        refine percentDecode_percent fun high low behind hbytes => Option.eq_none_iff_forall_ne_some.mpr ?_
        -- The bytes of an escape are characters of their own, so the text would begin with this escape as well.
        intro b hb
        have hb := signedDigits_of_percentByte? hb
        obtain ⟨hhigh, hlow⟩ := hb.ascii
        obtain ⟨t, rfl, ht⟩ := eq_cons_of_encode_eq_cons hbytes (lt_of_ofNat_lt high hhigh)
        obtain ⟨u, rfl, -⟩ := eq_cons_of_encode_eq_cons ht.symm (lt_of_ofNat_lt low hlow)
        exact hescape ⟨_, _, b, u, rfl, hb⟩
      · rw [encode_cons, percentDecode_append_of_plain (plain_of_mem_encodeChar hplus hpercent), ih]

/-! ### Escapes with a plus sign -/

/-- Somewhere in a text a percent sign is followed by a plus sign and a digit. -/
def HasPlusEscape (s : List Char) : Prop := ∃ n digit, SpellsHex n digit ∧ ['%', '+', digit] <:+: s

/-- A text begins with such an escape. -/
def BeginsPlusEscape (s : List Char) : Prop := ∃ n digit, SpellsHex n digit ∧ ['%', '+', digit] <+: s

theorem hasPlusEscape_cons_iff {c : Char} : HasPlusEscape (c :: s) ↔ BeginsPlusEscape (c :: s) ∨ HasPlusEscape s := by
  simp only [HasPlusEscape, BeginsPlusEscape, List.infix_cons_iff, and_or_left, exists_or]

theorem begins_signedDigits_iff : Begins SignedDigits s ↔ Begins TwoDigits s ∨ BeginsPlusEscape s := by
  constructor
  · rintro ⟨high, low, b, rest, rfl, hb⟩
    cases hb with
    | digits hb => exact Or.inl ⟨high, low, b, rest, rfl, hb⟩
    | plus hn => exact Or.inr ⟨_, low, hn, rest, rfl⟩
  · rintro (⟨high, low, b, rest, rfl, hb⟩ | ⟨n, digit, hn, rest, rfl⟩)
    · exact ⟨high, low, b, rest, rfl, .digits hb⟩
    · exact ⟨'+', digit, _, rest, rfl, .plus hn⟩

/-- No such escape overlaps with two digits behind a percent sign. -/
theorem hasPlusEscape_of_escape {high low : Char} {b : UInt8} (hb : TwoDigits high low b)
    (h : HasPlusEscape ('%' :: high :: low :: s)) : HasPlusEscape s := by
  obtain ⟨hm, hn⟩ := hb
  have hplus : ∀ n, ¬ SpellsHex n '+' := not_spellsHex rfl
  have hpercent : ∀ n, ¬ SpellsHex n '%' := not_spellsHex rfl
  rcases hasPlusEscape_cons_iff.mp h with ⟨n, digit, -, rest, hrest⟩ | h
  · cases hrest
    exact absurd hm (hplus _)
  rcases hasPlusEscape_cons_iff.mp h with ⟨n, digit, -, rest, hrest⟩ | h
  · cases hrest
    exact absurd hm (hpercent _)
  rcases hasPlusEscape_cons_iff.mp h with ⟨n, digit, -, rest, hrest⟩ | h
  · cases hrest
    exact absurd hn (hpercent _)
  exact h

theorem Decodes.signed_of_not (h : Decodes TwoDigits s bytes) (hs : ¬ HasPlusEscape s) : Decodes SignedDigits s bytes := by
  induction h with
  | nil => exact .nil
  | escape hb _ ih =>
      refine .escape (.digits hb) (ih fun h => hs ?_)
      exact hasPlusEscape_cons_iff.mpr (.inr (hasPlusEscape_cons_iff.mpr (.inr (hasPlusEscape_cons_iff.mpr (.inr h)))))
  | plus _ ih => exact .plus (ih fun h => hs (hasPlusEscape_cons_iff.mpr (.inr h)))
  | plain hplus hescape _ ih =>
      rw [hasPlusEscape_cons_iff, not_or] at hs
      refine .plain hplus ?_ (ih hs.2)
      rw [begins_signedDigits_iff, not_or]
      exact ⟨hescape, hs.1⟩

/-- The first such escape gives a byte below 16, where a form keeps the percent sign. -/
theorem Decodes.part (h : Decodes TwoDigits s bytes) {bytes' : List UInt8} (h' : Decodes SignedDigits s bytes')
    (hs : HasPlusEscape s) : ∃ front b rest rest', b < 0x10 ∧ bytes = front ++ 0x25 :: rest ∧ bytes' = front ++ b :: rest' := by
  induction h generalizing bytes' with
  | nil =>
      obtain ⟨n, digit, -, hinfix⟩ := hs
      cases List.infix_nil.mp hinfix
  | @escape high low b s bytes hb _ ih =>
      obtain ⟨bytes', rfl, hmore⟩ := h'.of_escape single_signedDigits (.digits hb)
      obtain ⟨front, x, rest, rest', hx, rfl, rfl⟩ := ih hmore (hasPlusEscape_of_escape hb hs)
      exact ⟨b :: front, x, rest, rest', hx, rfl, rfl⟩
  | @plus s bytes _ ih =>
      obtain ⟨bytes', rfl, hmore⟩ := h'.of_plus
      rcases hasPlusEscape_cons_iff.mp hs with ⟨n, digit, -, rest, hrest⟩ | hs
      · cases hrest
      · obtain ⟨front, x, rest, rest', hx, rfl, rfl⟩ := ih hmore hs
        exact ⟨0x20 :: front, x, rest, rest', hx, rfl, rfl⟩
  | @plain c s bytes hplus hescape _ ih =>
      -- Either the two readings part here, or they go on alike behind the character.
      by_cases hbegins : BeginsPlusEscape (c :: s)
      · obtain ⟨n, digit, hn, rest, hrest⟩ := hbegins
        cases hrest
        obtain ⟨bytes', rfl, -⟩ := h'.of_escape single_signedDigits (.plus hn)
        refine ⟨[], UInt8.ofNat n, bytes, bytes', ?_, rfl, rfl⟩
        have hbound : ∀ k < 16, UInt8.ofNat k < 0x10 := by decide
        exact hbound n hn.1
      · have hnone : ¬ Begins SignedDigits (c :: s) := by
          rw [begins_signedDigits_iff, not_or]
          exact ⟨hescape, hbegins⟩
        obtain ⟨bytes', rfl, hmore⟩ := h'.of_plain hplus hnone
        obtain ⟨front, x, rest, rest', hx, rfl, rfl⟩ := ih hmore ((hasPlusEscape_cons_iff.mp hs).resolve_left hbegins)
        refine ⟨String.utf8EncodeChar c ++ front, x, rest, rest', hx, ?_, ?_⟩ <;> rw [List.append_assoc]

/-- A component is the text of exactly the bytes that it stands for when a plus sign may take the place of the first
digit of an escape. Exactly where no percent sign is followed by a plus sign and a digit, it is the text of the bytes that it
stands for in a form. -/
theorem decodes_as_form_apart_from_plus_escapes (s : List Char) :
    (∃ bytes, (∀ other, Decodes SignedDigits s other ↔ other = bytes) ∧ decodeComponent s = decodeLossy bytes) ∧
    ∃ bytes, (∀ other, Decodes TwoDigits s other ↔ other = bytes) ∧
      (decodeComponent s = decodeLossy bytes ↔ ¬ HasPlusEscape s) := by
  obtain ⟨bytes, hbytes⟩ := exists_decodes SignedDigits s
  obtain ⟨formBytes, hform⟩ := exists_decodes TwoDigits s
  have hcomponent : decodeComponent s = decodeLossy bytes := congrArg decodeLossy (percentDecode_of_decodes hbytes)
  refine ⟨⟨bytes, hbytes.iff_eq single_signedDigits, hcomponent⟩, formBytes, hform.iff_eq single_twoDigits, ?_⟩
  rw [hcomponent]
  constructor
  · intro hsame hescape
    obtain ⟨front, b, rest, rest', hb, rfl, rfl⟩ := hform.part hbytes hescape
    have hne : b ≠ 0x25 := by
      rintro rfl
      exact absurd hb (by decide)
    exact decodeLossy_ne (UInt8.lt_trans hb (by decide)) (by decide) hne front rest' rest hsame
  · intro hescape
    rw [hbytes.unique single_signedDigits (hform.signed_of_not hescape)]

example : decodeComponent "%C3%A9+100%+%2é%%41".toList = "é 100% %2é%A".toList := by decide +kernel

/-- In a form a percent sign stays before a plus sign, which is a space. Here the two are read with the digit. -/
theorem plus_sign_begins_number : Decodes TwoDigits "%+5".toList [0x25, 0x20, 0x35] ∧
    decodeLossy [0x25, 0x20, 0x35] = "% 5".toList ∧ decodeComponent "%+5".toList = ['\x05'] := by
  have hpercent : ¬ Begins TwoDigits "%+5".toList := by
    rintro ⟨high, low, b, rest, hbegins, hm, -⟩
    cases hbegins
    exact not_spellsHex rfl _ hm
  have hdigit : ¬ Begins TwoDigits ['5'] := by
    rintro ⟨high, low, b, rest, hbegins, -⟩
    cases hbegins
  refine ⟨?_, by decide +kernel, by decide +kernel⟩
  exact .plain (by decide) hpercent (.plus (.plain (by decide) hdigit .nil))

end Web

end AlbumBrowser
