import AlbumBrowser.Unicode.Case
import Mathlib.Data.List.Basic
import Mathlib.Data.List.Forall2

/-!
The lower case of a part of a text. What a character becomes hangs on the character alone, except for a capital sigma,
which becomes a final sigma when the nearest character before it that counts has a case and the nearest one after it
has none. So the lower case of a part is the same inside two texts exactly if each of its capital sigmas has one
form in both; and if it is not the same, then the part has more final sigmas in one text than in the other, and
fewer that are not final, while all else is equal.
-/

namespace AlbumBrowser.Unicode

variable {s t part left right : List Char}

/-! ### The nearest character that counts -/

theorem startsCased_append (s t : List Char) :
    startsCased (s ++ t) = if s.all isCaseIgnorable then startsCased t else startsCased s := by
  induction s with
  | nil => rfl
  | cons c s ih =>
      cases hc : isCaseIgnorable c with
      | true =>
          have hdrop : ∀ u, startsCased (c :: u) = startsCased u := fun u => by simp [startsCased, hc]
          rw [List.cons_append, hdrop, hdrop, ih, List.all_cons, hc, Bool.true_and]
      | false => simp [startsCased, hc]

theorem startsCased_of_all (h : s.all isCaseIgnorable = true) : startsCased s = false := by
  have hempty := startsCased_append s []
  rwa [List.append_nil, if_pos h] at hempty

theorem startsCased_append_of_startsCased (h : startsCased s = true) (t : List Char) : startsCased (s ++ t) = true := by
  have hcounts : ¬ s.all isCaseIgnorable = true := by
    intro hall
    rw [startsCased_of_all hall] at h
    cases h
  rw [startsCased_append, if_neg hcounts, h]

/-! ### Parts of a text -/

/-- What stands around a part of a text. -/
structure Surroundings where
  /-- The characters before the part, listed backwards. -/
  before : List Char := []
  after : List Char := []

namespace Surroundings

/-- What stands around the rest of a part behind its first character. -/
def behind (around : Surroundings) (c : Char) : Surroundings := { around with before := c :: around.before }

/-- Whether a capital sigma is final that stands in a part between two pieces of it. -/
def final (around : Surroundings) (left right : List Char) : Bool :=
  startsCased (left.reverse ++ around.before) && !startsCased (right ++ around.after)

theorem final_behind (around : Surroundings) (c : Char) (left right : List Char) :
    (around.behind c).final left right = around.final (c :: left) right := by
  simp [final, behind, List.reverse_cons, List.append_assoc]

end Surroundings

/-- The lower case of a part of a text. -/
def lowerWithin (around : Surroundings) : List Char → List Char
  | [] => []
  | c :: rest =>
    (if c = 'Σ' then [if around.final [] rest then 'ς' else 'σ'] else lowerChar c) ++ lowerWithin (around.behind c) rest

variable {around around' : Surroundings}

theorem lowerFrom_append (before part after : List Char) : lowerFrom before (part ++ after) =
    lowerWithin ⟨before, after⟩ part ++ lowerFrom (part.reverse ++ before) after := by
  induction part generalizing before with
  | nil => rfl
  | cons c part ih =>
      rw [List.cons_append, lowerFrom, ih, lowerWithin, List.append_assoc, List.reverse_cons, List.append_assoc]
      rfl

/-- A text without anything around it. -/
theorem lowerWithin_bare (s : List Char) : lowerWithin {} s = lower s := by
  have h := lowerFrom_append [] s []
  rw [List.append_nil] at h
  exact ((List.append_nil _).symm.trans h.symm)

/-- The lower case of a text has that of a part, inside the text, at the part's place. -/
theorem lower_append (before part after : List Char) : lower (before ++ part ++ after) =
    lowerWithin ⟨[], part ++ after⟩ before ++ lowerWithin ⟨before.reverse, after⟩ part ++
      lowerFrom (part.reverse ++ before.reverse) after := by
  rw [List.append_assoc, lower, lowerFrom_append, lowerFrom_append, List.append_nil, List.append_assoc]

theorem lowerWithin_infix_lower (before part after : List Char) :
    lowerWithin ⟨before.reverse, after⟩ part <:+: lower (before ++ part ++ after) :=
  ⟨_, _, (lower_append before part after).symm⟩

/-! ### Forms of sigma -/

/-- What holds of every capital sigma of a part holds of the first character, if it is one, and of those behind it. -/
theorem forall_sigma_cons {p : List Char → List Char → Prop} {c : Char} :
    (∀ left right, c :: part = left ++ 'Σ' :: right → p left right) ↔
      (c = 'Σ' → p [] part) ∧ ∀ left right, part = left ++ 'Σ' :: right → p (c :: left) right := by
  constructor
  · intro h
    refine ⟨?_, ?_⟩
    · rintro rfl
      exact h [] part rfl
    · rintro left right rfl
      exact h (c :: left) right rfl
  · rintro ⟨hfirst, hrest⟩ left right hsplit
    cases left with
    | nil =>
        obtain ⟨rfl, rfl⟩ := List.cons.inj hsplit
        exact hfirst rfl
    | cons d left =>
        obtain ⟨rfl, htail⟩ := List.cons.inj hsplit
        exact hrest left right htail

/-- Every capital sigma of the part has one form, whichever of the two stands around the part. -/
def SameForms (around around' : Surroundings) (part : List Char) : Prop :=
  ∀ left right, part = left ++ 'Σ' :: right → around.final left right = around'.final left right

theorem lowerWithin_eq_iff : lowerWithin around part = lowerWithin around' part ↔ SameForms around around' part := by
  induction part generalizing around around' with
  | nil =>
      refine iff_of_true rfl ?_
      rintro left right hsplit
      cases left <;> cases hsplit
  | cons c part ih =>
      have hrest : SameForms (around.behind c) (around'.behind c) part ↔ ∀ left right,
          part = left ++ 'Σ' :: right → around.final (c :: left) right = around'.final (c :: left) right := by
        simp only [SameForms, Surroundings.final_behind]
      rw [SameForms, forall_sigma_cons, ← hrest, ← ih, lowerWithin, lowerWithin]
      by_cases hc : c = 'Σ'
      · have hform : ∀ f f' : Bool, (if f then 'ς' else 'σ') = (if f' then 'ς' else 'σ') ↔ f = f' := by decide
        rw [if_pos hc, if_pos hc, List.singleton_append, List.singleton_append, List.cons.injEq, hform]
        exact and_congr_left fun _ => ⟨fun h _ => h, fun h => h hc⟩
      · rw [if_neg hc, if_neg hc, List.append_cancel_left_eq]
        exact (and_iff_right fun h => absurd h hc).symm

/-- The same character, or a sigma that is not final and one that is. -/
def IsFormOf (c d : Char) : Prop := c = d ∨ c = 'σ' ∧ d = 'ς'

theorem forall₂_isFormOf_append (u : List Char) (h : List.Forall₂ IsFormOf s t) :
    List.Forall₂ IsFormOf (u ++ s) (u ++ t) := by
  induction u with
  | nil => exact h
  | cons c u ih => exact .cons (Or.inl rfl) ih

/-- Where every capital sigma that is final inside the one text is final inside the other too, the lower case of the
part differs in forms of sigma only. -/
theorem forall₂_lowerWithin (h : ∀ left right, part = left ++ 'Σ' :: right →
    around.final left right = true → around'.final left right = true) :
    List.Forall₂ IsFormOf (lowerWithin around part) (lowerWithin around' part) := by
  induction part generalizing around around' with
  | nil => exact .nil
  | cons c part ih =>
      obtain ⟨hfirst, hrest⟩ := forall_sigma_cons.mp h
      have htail : List.Forall₂ IsFormOf (lowerWithin (around.behind c) part) (lowerWithin (around'.behind c) part) := by
        refine ih fun left right hsplit => ?_
        rw [Surroundings.final_behind, Surroundings.final_behind]
        exact hrest left right hsplit
      rw [lowerWithin, lowerWithin]
      by_cases hc : c = 'Σ'
      · rw [if_pos hc, if_pos hc]
        refine .cons ?_ htail
        have hform : ∀ f f' : Bool, (f = true → f' = true) →
            IsFormOf (if f then 'ς' else 'σ') (if f' then 'ς' else 'σ') := by
          simp [IsFormOf]
        exact hform _ _ (hfirst hc)
      · rw [if_neg hc, if_neg hc]
        exact forall₂_isFormOf_append _ htail

/-- Texts that differ in forms of sigma only, and do differ, have different numbers of each form. -/
theorem eq_or_count_lt (h : List.Forall₂ IsFormOf s t) :
    s = t ∨ s.count 'ς' < t.count 'ς' ∧ t.count 'σ' < s.count 'σ' := by
  induction h with
  | nil => exact Or.inl rfl
  | @cons c d s t hform _ ih =>
      rcases hform with rfl | ⟨rfl, rfl⟩
      · rcases ih with rfl | ⟨hfinal, hplain⟩
        · exact Or.inl rfl
        · refine Or.inr ⟨?_, ?_⟩
          · rw [List.count_cons, List.count_cons]
            exact Nat.add_lt_add_right hfinal _
          · rw [List.count_cons, List.count_cons]
            exact Nat.add_lt_add_right hplain _
      · refine Or.inr ?_
        have hle : s.count 'ς' ≤ t.count 'ς' ∧ t.count 'σ' ≤ s.count 'σ' := by
          rcases ih with rfl | ⟨hfinal, hplain⟩
          · exact ⟨Nat.le_refl _, Nat.le_refl _⟩
          · exact ⟨Nat.le_of_lt hfinal, Nat.le_of_lt hplain⟩
        simp
        omega

/-- So neither is part of the other one, even with more around it, unless there are sigmas in that. -/
theorem not_infix_of_forms (h : List.Forall₂ IsFormOf s t) (hne : s ≠ t) {u v : List Char}
    (hu : 'ς' ∉ u ∧ 'σ' ∉ u) (hv : 'ς' ∉ v ∧ 'σ' ∉ v) : ¬ t <:+: u ++ s ++ v ∧ ¬ s <:+: u ++ t ++ v := by
  obtain ⟨hfinal, hplain⟩ := (eq_or_count_lt h).resolve_left hne
  refine ⟨fun hwithin => ?_, fun hwithin => ?_⟩
  · have hle := hwithin.sublist.count_le 'ς'
    rw [List.count_append, List.count_append, List.count_eq_zero.mpr hu.1, List.count_eq_zero.mpr hv.1] at hle
    omega
  · have hle := hwithin.sublist.count_le 'σ'
    rw [List.count_append, List.count_append, List.count_eq_zero.mpr hu.2, List.count_eq_zero.mpr hv.2] at hle
    omega

/-- A final sigma read as any other small sigma. -/
def plainSigma (c : Char) : Char := if c = 'ς' then 'σ' else c

/-- Apart from the forms of sigma, the lower case of a part is the same in every text. -/
theorem map_plainSigma_lowerWithin (around around' : Surroundings) (part : List Char) :
    (lowerWithin around part).map plainSigma = (lowerWithin around' part).map plainSigma := by
  induction part generalizing around around' with
  | nil => rfl
  | cons c part ih =>
      rw [lowerWithin, lowerWithin, List.map_append, List.map_append, ih (around.behind c) (around'.behind c)]
      by_cases hc : c = 'Σ'
      · have hform : ∀ f : Bool, plainSigma (if f then 'ς' else 'σ') = 'σ' := by decide
        rw [if_pos hc, if_pos hc, List.map_singleton, List.map_singleton, hform, hform]
      · rw [if_neg hc, if_neg hc]

/-! ### Sigmas that a part settles by itself -/

/-- The form of a capital sigma between two pieces hangs on what stands around both: nothing before it counts and it has
no character with a case behind it, or nothing behind it counts and it has a character with a case before it. -/
def AtEdge (left right : List Char) : Prop :=
  left.all isCaseIgnorable = true ∧ startsCased right = false ∨
    startsCased left.reverse = true ∧ right.all isCaseIgnorable = true

instance (left right : List Char) : Decidable (AtEdge left right) := inferInstanceAs (Decidable (_ ∨ _))

/-- No capital sigma of the part stands at an edge. -/
def SettlesSigmas (part : List Char) : Prop := ∀ left right, part = left ++ 'Σ' :: right → ¬ AtEdge left right

example : AtEdge "ΚΩ".toList [] ∧ ¬ AtEdge "ΚΩ".toList "Τ".toList := by decide +kernel

/-- A capital sigma that does not stand at an edge has its form from the part alone. -/
theorem final_of_not_atEdge (h : ¬ AtEdge left right) (around : Surroundings) :
    around.final left right = ({} : Surroundings).final left right := by
  obtain ⟨hbefore, hbehind⟩ := not_or.mp h
  unfold Surroundings.final
  rw [List.append_nil, List.append_nil, startsCased_append, startsCased_append, List.all_reverse]
  by_cases hleft : left.all isCaseIgnorable = true
  · have hcased : startsCased right = true := by
      rw [← Bool.not_eq_false]
      exact fun hnone => hbefore ⟨hleft, hnone⟩
    have hright : ¬ right.all isCaseIgnorable = true := by
      intro hall
      rw [startsCased_of_all hall] at hcased
      cases hcased
    rw [if_neg hright, hcased, Bool.not_true, Bool.and_false, Bool.and_false]
  · rw [if_neg hleft]
    by_cases hright : right.all isCaseIgnorable = true
    · have hnone : startsCased left.reverse = false := by
        rw [← Bool.not_eq_true]
        exact fun hcased => hbehind ⟨hcased, hright⟩
      rw [hnone, Bool.false_and, Bool.false_and]
    · rw [if_neg hright]

theorem SettlesSigmas.sameForms (h : SettlesSigmas part) (around : Surroundings) : SameForms around {} part :=
  fun left right hsplit => final_of_not_atEdge (h left right hsplit) around

/-- A letter that has a case and a lower case of its own. -/
theorem letter_lower : lowerChar 'a' = ['a'] ∧ startsCased ['a'] = true := by decide +kernel

/-- A letter behind a part takes the final form from a sigma that nothing follows in the part. -/
theorem not_infix_lower_of_cased (hsplit : part = left ++ 'Σ' :: right) (hcased : startsCased left.reverse = true)
    (hright : right.all isCaseIgnorable = true) : ¬ lower part <:+: lower ([] ++ part ++ ['a']) := by
  obtain ⟨hletter, hfollows⟩ := letter_lower
  have hforms : List.Forall₂ IsFormOf (lowerWithin ⟨[], ['a']⟩ part) (lowerWithin {} part) := by
    refine forall₂_lowerWithin fun left right _ hfinal => ?_
    obtain ⟨hbefore, hafter⟩ := Bool.and_eq_true_iff.mp hfinal
    refine Bool.and_eq_true_iff.mpr ⟨hbefore, ?_⟩
    rw [Bool.not_eq_true', List.append_nil, ← Bool.not_eq_true]
    intro hnext
    rw [startsCased_append_of_startsCased hnext] at hafter
    cases hafter
  have hne : lowerWithin ⟨[], ['a']⟩ part ≠ lowerWithin {} part := by
    intro heq
    have hform := lowerWithin_eq_iff.mp heq left right hsplit
    simp [Surroundings.final, hcased, startsCased_append, hright, hfollows, startsCased_of_all hright] at hform
  have htail : lowerFrom (part.reverse ++ [].reverse) ['a'] = ['a'] := by simp [lowerFrom, hletter]
  rw [lower_append, htail, ← lowerWithin_bare, lowerWithin]
  exact (not_infix_of_forms hforms hne (by decide) (by decide)).1

/-- A letter before a part gives the final form to a sigma that nothing comes before in the part and that has no character
with a case behind it. -/
theorem not_infix_lower_of_uncased (hsplit : part = left ++ 'Σ' :: right) (hleft : left.all isCaseIgnorable = true)
    (huncased : startsCased right = false) : ¬ lower part <:+: lower (['a'] ++ part ++ []) := by
  obtain ⟨hletter, hprecedes⟩ := letter_lower
  have hforms : List.Forall₂ IsFormOf (lowerWithin {} part) (lowerWithin ⟨['a'], []⟩ part) := by
    refine forall₂_lowerWithin fun left right _ hfinal => ?_
    obtain ⟨hbefore, hafter⟩ := Bool.and_eq_true_iff.mp hfinal
    rw [List.append_nil] at hbefore
    exact Bool.and_eq_true_iff.mpr ⟨startsCased_append_of_startsCased hbefore _, hafter⟩
  have hne : lowerWithin {} part ≠ lowerWithin ⟨['a'], []⟩ part := by
    intro heq
    have hform := lowerWithin_eq_iff.mp heq left right hsplit
    have hnone : startsCased left.reverse = false := startsCased_of_all (by rwa [List.all_reverse])
    simp [Surroundings.final, huncased, startsCased_append, hleft, hprecedes, hnone] at hform
  have hhead : lowerWithin ⟨[], part ++ []⟩ ['a'] = ['a'] := by simp [lowerWithin, hletter]
  rw [lower_append, hhead, ← lowerWithin_bare, lowerFrom]
  exact (not_infix_of_forms hforms hne (by decide) (by decide)).2

/-- A part that does not settle its sigmas is no part of the lower case of some text that it is a part of. -/
theorem exists_not_infix_lower (h : ¬ SettlesSigmas part) :
    ∃ before after, ¬ lower part <:+: lower (before ++ part ++ after) := by
  simp only [SettlesSigmas, not_forall, not_not] at h
  obtain ⟨left, right, hsplit, ⟨hleft, huncased⟩ | ⟨hcased, hright⟩⟩ := h
  · exact ⟨_, _, not_infix_lower_of_uncased hsplit hleft huncased⟩
  · exact ⟨_, _, not_infix_lower_of_cased hsplit hcased hright⟩

end AlbumBrowser.Unicode
