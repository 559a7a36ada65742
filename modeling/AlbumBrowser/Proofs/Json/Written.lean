import AlbumBrowser.Json.Record
import AlbumBrowser.Json.Writer
import AlbumBrowser.Proofs.Json.Values

/-!
What is written is spelled as the grammar has it. A character that is escaped spells itself, so a string in its
quotation marks is read back whatever it holds; and the members of a written object come to a reader of
records one by one, each behind a comma but the first.
-/

namespace AlbumBrowser.Json

open Text

variable {σ : Type} {rest : List Char} {first : Bool}

/-! ### Strings -/

/-- The number of a control character is written in four digits. -/
theorem spellsQuad_control {n : Nat} (h : n < 32) : SpellsQuad n ((hexDigits n).leftpad 4 '0') := by
  have hread : ∀ n < 32, (hexQuad ((hexDigits n).leftpad 4 '0')).toOption = some (n, []) := by decide +kernel
  cases hquad : hexQuad ((hexDigits n).leftpad 4 '0') with
  | error fault =>
      have hnone := hread n h
      rw [hquad] at hnone
      cases hnone
  | ok read =>
      have hsome := hread n h
      rw [hquad] at hsome
      cases hsome
      obtain ⟨t, ht, heq⟩ := hexQuad_eq_ok_iff.mp hquad
      rw [List.append_nil] at heq
      exact heq ▸ ht

theorem spellsChar_escapeChar (c : Char) : SpellsChar c (escapeChar c) := by
  have hletter : ∀ {x letter : Char}, c = x → escapeLetter? letter = some x → SpellsChar c ['\\', letter] := by
    rintro x letter rfl h
    exact .letter h
  unfold escapeChar
  split
  · exact hletter ‹_› rfl
  split
  · exact hletter ‹_› rfl
  split
  · exact hletter ‹_› rfl
  split
  · exact hletter ‹_› rfl
  split
  · exact hletter ‹_› rfl
  split
  · exact hletter ‹_› rfl
  split
  · exact hletter ‹_› rfl
  split
  · rename_i hcontrol
    have hlow : c.toNat < 32 := hcontrol
    have hspelled := SpellsChar.number (spellsQuad_control hlow) (Or.inl (by omega))
    rwa [Char.ofNat_toNat] at hspelled
  · rename_i hmark hslash _ _ _ _ _ hcontrol
    exact .plain hmark hslash hcontrol

theorem spellsChars_escaped (cs : List Char) : SpellsChars cs (cs.flatMap escapeChar ++ ['"']) := by
  induction cs with
  | nil => exact .nil
  | cons c cs ih =>
      rw [List.flatMap_cons, List.append_assoc]
      exact .cons (spellsChar_escapeChar c) ih

theorem quoted_append (x : String) (rest : List Char) :
    quoted x.toList ++ rest = '"' :: (x.toList.flatMap escapeChar ++ ['"'] ++ rest) := rfl

theorem stringValue_quoted (x : String) (rest : List Char) : stringValue (quoted x.toList ++ rest) = .ok (x, rest) := by
  rw [quoted_append]
  exact stringRest_eq_ok_iff.mpr ⟨_, spellsChars_escaped x.toList, rfl⟩

theorem boolValue_chars (b : Bool) (rest : List Char) : boolValue ((Value.bool b).chars ++ rest) = .ok (b, rest) := by
  cases b <;> rfl

/-! ### Members -/

variable {step : σ → String → Reader σ} {state next last : σ} {name : String} {v : Value}
  {members : List (String × Value)}

/-- The members of an object behind one that has been written. -/
def moreChars : List (String × Value) → List Char
  | [] => []
  | m :: members => ',' :: memberChars (m :: members)

theorem memberChars_cons (name : String) (v : Value) (members : List (String × Value)) :
    memberChars ((name, v) :: members) = quoted name.toList ++ ':' :: (v.chars ++ moreChars members) := by
  cases members with
  | nil => rw [memberChars, moreChars, List.append_nil]
  | cons m members => rw [memberChars, moreChars]

/-- A step by step reading of written members, each with its colon and value, whatever comes behind. -/
inductive TakesIn (step : σ → String → Reader σ) : σ → List (String × Value) → σ → Prop
  | nil {state : σ} : TakesIn step state [] state
  | cons {state next last : σ} {name : String} {v : Value} {members : List (String × Value)}
      (hstep : ∀ rest, step state name (':' :: (v.chars ++ rest)) = .ok (next, rest))
      (hmore : TakesIn step next members last) : TakesIn step state ((name, v) :: members) last

theorem foldMembers_member {b : List Char} (hb : Separator first b)
    (hstep : ∀ rest, step state name (':' :: (v.chars ++ rest)) = .ok (next, rest)) (y : Char)
    (bound rest : List Char) :
    foldMembers step (y :: bound) first state (b ++ (quoted name.toList ++ ':' :: (v.chars ++ rest))) =
      foldMembers step bound false next rest := by
  have hname := nextName_append hb isSpace_nil (spellsChars_escaped name.toList) (':' :: (v.chars ++ rest))
  rw [quoted_append]
  conv =>
    lhs
    unfold foldMembers
  rw [List.nil_append] at hname
  rw [hname]
  show (step state name (':' :: (v.chars ++ rest)) >>= _) = _
  rw [hstep]
  rfl

theorem foldMembers_end (bound : List Char) (first : Bool) (state : σ) (rest : List Char) :
    foldMembers step bound first state ('\x7d' :: rest) = .ok (state, rest) := by
  unfold foldMembers
  rfl

theorem foldMembers_moreChars (h : TakesIn step state members last) {bound : List Char}
    (hbound : members.length ≤ bound.length) (rest : List Char) :
    foldMembers step bound false state (moreChars members ++ '\x7d' :: rest) = .ok (last, rest) := by
  induction h generalizing bound with
  | nil => exact foldMembers_end bound false _ rest
  | @cons state next last name v members hstep _ ih =>
      cases bound with
      | nil => exact absurd hbound (Nat.not_succ_le_zero _)
      | cons y bound =>
          have hmember := foldMembers_member (.comma isSpace_nil) hstep y bound (moreChars members ++ '\x7d' :: rest)
          rw [moreChars, memberChars_cons]
          simp only [List.nil_append, List.cons_append, List.append_assoc] at hmember ⊢
          rw [hmember]
          exact ih (Nat.le_of_succ_le_succ hbound)

theorem length_le_memberChars (members : List (String × Value)) : members.length ≤ (memberChars members).length := by
  induction members with
  | nil => exact Nat.zero_le _
  | cons m members ih =>
      obtain ⟨name, v⟩ := m
      rw [memberChars_cons]
      cases members with
      | nil => simp [quoted]
      | cons m members =>
          simp only [moreChars, List.length_append, List.length_cons] at ih ⊢
          omega

/-- A written object is read member by member. -/
theorem foldMembers_memberChars (h : TakesIn step state members last) {bound : List Char}
    (hbound : members.length ≤ bound.length) (rest : List Char) :
    foldMembers step bound true state (memberChars members ++ '\x7d' :: rest) = .ok (last, rest) := by
  cases h with
  | nil => exact foldMembers_end bound true _ rest
  | @cons _ next _ name v members hstep hmore =>
      cases bound with
      | nil => exact absurd hbound (Nat.not_succ_le_zero _)
      | cons y bound =>
          have hmember := foldMembers_member .none hstep y bound (moreChars members ++ '\x7d' :: rest)
          rw [memberChars_cons]
          simp only [List.nil_append, List.cons_append, List.append_assoc] at hmember ⊢
          rw [hmember]
          exact foldMembers_moreChars hmore (Nat.le_of_succ_le_succ hbound) rest

end AlbumBrowser.Json
