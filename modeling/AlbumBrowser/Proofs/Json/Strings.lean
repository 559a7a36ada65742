import AlbumBrowser.Proofs.Json.Grammar

/-!
Strings are read as they are spelled. A string ends with its closing mark, so nothing needs to be known of
what comes behind it.
-/

namespace AlbumBrowser.Json

open Text

variable {s rest : List Char} {c : Char} {n : Nat}

theorem four_le_byteCount (a b c d : Char) (rest : List Char) : 4 ≤ byteCount (a :: b :: c :: d :: rest) := by
  have ha := Char.utf8Size_pos a
  have hb := Char.utf8Size_pos b
  have hc := Char.utf8Size_pos c
  have hd := Char.utf8Size_pos d
  simp only [byteCount, List.foldr_cons]
  omega

theorem hexQuad_eq_ok_iff : hexQuad s = .ok (n, rest) ↔ ∃ t, SpellsQuad n t ∧ s = t ++ rest := by
  constructor
  · intro h
    unfold hexQuad at h
    split at h
    · cases h
    · split at h
      · split at h
        · rename_i ha hb hc hd
          cases h
          exact ⟨_, .digits ha hb hc hd, rfl⟩
        · cases h
      · cases h
  · rintro ⟨t, ⟨ha, hb, hc, hd⟩, rfl⟩
    simp only [hexQuad, List.cons_append, List.nil_append, Nat.not_lt.mpr (four_le_byteCount _ _ _ _ rest), if_false,
      ha, hb, hc, hd]

theorem surrogateMark_eq_ok_iff {mark : Char} : surrogateMark mark s = .ok rest ↔ s = mark :: rest := by
  cases s with
  | nil => simp [surrogateMark]
  | cons c s =>
      by_cases hc : c = mark <;> simp [surrogateMark, hc]

theorem escapeLetter?_u : escapeLetter? 'u' = none := by decide

theorem unicodeEscape_eq_ok_iff :
    unicodeEscape s = .ok (c, rest) ↔ ∃ t, SpellsChar c ('\\' :: 'u' :: t) ∧ s = t ++ rest := by
  constructor
  · intro h
    rw [unicodeEscape, bind_eq_ok_iff] at h
    obtain ⟨⟨high, behind⟩, hhigh, h⟩ := h
    obtain ⟨t, ht, rfl⟩ := hexQuad_eq_ok_iff.mp hhigh
    simp only at h
    split at h
    · cases h
    · rename_i hlone
      split at h
      · rename_i hunit
        cases h
        exact ⟨t, .number ht (by omega), rfl⟩
      · rename_i hpair
        simp only [bind_eq_ok_iff, surrogateMark_eq_ok_iff] at h
        obtain ⟨_, rfl, _, rfl, ⟨low, after⟩, hlow, h⟩ := h
        obtain ⟨u, hu, rfl⟩ := hexQuad_eq_ok_iff.mp hlow
        simp only at h
        split at h
        · cases h
        · rename_i hrange
          obtain ⟨rfl, rfl⟩ := Prod.mk.inj (Except.ok.inj h)
          exact ⟨t ++ '\\' :: 'u' :: u, .pair ht hu (by omega) (by omega), by simp⟩
  · rintro ⟨t, hc, rfl⟩
    cases hc with
    | letter h =>
        rw [escapeLetter?_u] at h
        cases h
    | number h hn =>
        rw [unicodeEscape, bind_eq_ok_iff]
        refine ⟨_, hexQuad_eq_ok_iff.mpr ⟨t, h, rfl⟩, ?_⟩
        simp only
        rw [if_neg (by omega), if_pos (by omega)]
        rfl
    | @pair high low t u ht hu hhigh hlow =>
        rw [List.append_assoc, unicodeEscape, bind_eq_ok_iff]
        refine ⟨_, hexQuad_eq_ok_iff.mpr ⟨t, ht, rfl⟩, ?_⟩
        simp only
        rw [if_neg (by omega), if_neg (by omega)]
        simp only [bind_eq_ok_iff, surrogateMark_eq_ok_iff]
        refine ⟨_, rfl, _, rfl, _, hexQuad_eq_ok_iff.mpr ⟨u, hu, rfl⟩, ?_⟩
        simp only
        rw [if_neg (by omega)]
        rfl

theorem escapeSequence_eq_ok_iff :
    escapeSequence s = .ok (c, rest) ↔ ∃ x t, SpellsChar c ('\\' :: x :: t) ∧ s = x :: (t ++ rest) := by
  constructor
  · intro h
    unfold escapeSequence at h
    split at h
    · cases h
    · split at h
      · rename_i hu
        cases hu
        obtain ⟨t, hc, rfl⟩ := unicodeEscape_eq_ok_iff.mp h
        exact ⟨'u', t, hc, rfl⟩
      · split at h
        · rename_i hletter
          cases h
          exact ⟨_, [], .letter hletter, rfl⟩
        · cases h
  · rintro ⟨x, t, hc, rfl⟩
    cases hc with
    | letter hletter =>
        have hu : x ≠ 'u' := by
          rintro rfl
          rw [escapeLetter?_u] at hletter
          cases hletter
        simp only [escapeSequence, hu, if_false, hletter, List.nil_append]
    | number ht hn => exact unicodeEscape_eq_ok_iff.mpr ⟨_, .number ht hn, rfl⟩
    | pair ht hu hhigh hlow => exact unicodeEscape_eq_ok_iff.mpr ⟨_, .pair ht hu hhigh hlow, rfl⟩

theorem stringChar_eq_none_iff : stringChar s = .ok (none, rest) ↔ s = '"' :: rest := by
  constructor
  · intro h
    unfold stringChar at h
    split at h
    · cases h
    · split at h
      · rename_i hmark
        cases hmark
        cases h
        rfl
      · split at h
        · simp [bind_eq_ok_iff, pure, Except.pure] at h
        · split at h <;> cases h
  · rintro rfl
    rfl

theorem stringChar_eq_some_iff : stringChar s = .ok (some c, rest) ↔ ∃ t, SpellsChar c t ∧ s = t ++ rest := by
  constructor
  · intro h
    unfold stringChar at h
    split at h
    · cases h
    · rename_i x behind
      split at h
      · cases h
      · rename_i hmark
        split at h
        · rename_i hslash
          cases hslash
          rw [bind_eq_ok_iff] at h
          obtain ⟨⟨y, after⟩, hescape, h⟩ := h
          cases h
          obtain ⟨x, t, hc, rfl⟩ := escapeSequence_eq_ok_iff.mp hescape
          exact ⟨_, hc, rfl⟩
        · rename_i hslash
          split at h
          · cases h
          · rename_i hcontrol
            cases h
            exact ⟨_, .plain hmark hslash hcontrol, rfl⟩
  · rintro ⟨t, hc, rfl⟩
    have hescape : ∀ x t, SpellsChar c ('\\' :: x :: t) →
        stringChar ('\\' :: x :: t ++ rest) = .ok (some c, rest) := by
      intro x t hc
      show (escapeSequence (x :: (t ++ rest)) >>= _) = _
      rw [escapeSequence_eq_ok_iff.mpr ⟨x, t, hc, rfl⟩]
      rfl
    cases hc with
    | plain hmark hslash hcontrol =>
        simp only [stringChar, List.cons_append, hmark, hslash, hcontrol, if_false, List.nil_append]
    | letter h => exact hescape _ _ (.letter h)
    | number ht hn => exact hescape _ _ (.number ht hn)
    | pair ht hu hhigh hlow => exact hescape _ _ (.pair ht hu hhigh hlow)

theorem SpellsChar.length_pos {t : List Char} (h : SpellsChar c t) : 0 < t.length := by
  cases h <;> exact Nat.succ_pos _

theorem exists_of_stringChars {bound cs : List Char} (h : stringChars bound s = .ok (cs, rest)) :
    ∃ t, SpellsChars cs t ∧ s = t ++ rest := by
  induction bound generalizing s cs with
  | nil =>
      rw [stringChars, bind_eq_ok_iff] at h
      obtain ⟨⟨next, behind⟩, hnext, h⟩ := h
      cases next with
      | none =>
          cases h
          exact ⟨['"'], .nil, stringChar_eq_none_iff.mp hnext⟩
      | some c => cases h
  | cons b bound ih =>
      rw [stringChars, bind_eq_ok_iff] at h
      obtain ⟨⟨next, behind⟩, hnext, h⟩ := h
      cases next with
      | none =>
          cases h
          exact ⟨['"'], .nil, stringChar_eq_none_iff.mp hnext⟩
      | some c =>
          obtain ⟨t, hc, rfl⟩ := stringChar_eq_some_iff.mp hnext
          obtain ⟨⟨cs, after⟩, hcs, h⟩ := bind_eq_ok_iff.mp h
          cases h
          obtain ⟨u, hu, rfl⟩ := ih hcs
          exact ⟨t ++ u, .cons hc hu, (List.append_assoc t u _).symm⟩

/-- Every character of a string takes at least one of its text, so the text bounds the steps. -/
theorem stringChars_append {bound cs t : List Char} (h : SpellsChars cs t) (hbound : t.length ≤ bound.length)
    (rest : List Char) : stringChars bound (t ++ rest) = .ok (cs, rest) := by
  induction h generalizing bound with
  | nil =>
      rw [List.singleton_append, stringChars, stringChar_eq_none_iff.mpr rfl]
      rfl
  | @cons c cs t u hc hcs ih =>
      have hpos := hc.length_pos
      rw [List.length_append] at hbound
      cases bound with
      | nil =>
          rw [List.length_nil] at hbound
          omega
      | cons b bound =>
          have hrest : stringChars bound (u ++ rest) = .ok (cs, rest) := ih (by simp at hbound; omega)
          rw [List.append_assoc, stringChars, stringChar_eq_some_iff.mpr ⟨t, hc, rfl⟩]
          show (stringChars bound (u ++ rest) >>= _) = _
          rw [hrest]
          rfl

theorem stringRest_eq_ok_iff {x : String} :
    stringRest s = .ok (x, rest) ↔ ∃ t, SpellsChars x.toList t ∧ s = t ++ rest := by
  rw [stringRest, bind_eq_ok_iff]
  constructor
  · rintro ⟨⟨cs, behind⟩, hcs, h⟩
    cases h
    rw [String.toList_ofList]
    exact exists_of_stringChars hcs
  · rintro ⟨t, ht, rfl⟩
    refine ⟨_, stringChars_append ht (by simp) rest, ?_⟩
    simp only [String.ofList_toList]
    rfl

end AlbumBrowser.Json
