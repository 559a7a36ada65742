import AlbumBrowser.Text.Trim
import Mathlib.Data.List.DropRight

/-!
White space around a text. A text with white space on both sides of it is trimmed to itself, if it neither begins nor
ends with white space; every text is made up in that way, and one of white space only is trimmed to nothing.
-/

namespace AlbumBrowser.Text

open Unicode

/-- White space, or nothing. -/
def IsGap (w : List Char) : Prop := ∀ c ∈ w, isWhiteSpace c = true

instance (w : List Char) : Decidable (IsGap w) :=
  decidable_of_iff (w.all isWhiteSpace = true) List.all_eq_true

/-- A text that neither begins nor ends with white space. -/
def IsTrimmed (s : List Char) : Prop :=
  (∀ c ∈ s.head?, isWhiteSpace c = false) ∧ ∀ c ∈ s.getLast?, isWhiteSpace c = false

/-- No white space at all. -/
def IsVisible (s : List Char) : Prop := ∀ c ∈ s, isWhiteSpace c = false

variable {s t w w' rest : List Char} {c : Char}

theorem isGap_nil : IsGap [] := fun _ h => absurd h List.not_mem_nil

theorem trimStart_eq_self (h : ∀ c ∈ s.head?, isWhiteSpace c = false) : trimStart s = s := by
  cases s with
  | nil => rfl
  | cons c s => exact List.dropWhile_cons_of_neg (by rw [h c rfl]; exact Bool.false_ne_true)

theorem trimStart_cons (h : isWhiteSpace c = false) (rest : List Char) : trimStart (c :: rest) = c :: rest := by
  refine trimStart_eq_self ?_
  rintro _ ⟨rfl⟩
  exact h

theorem trimStart_append (hw : IsGap w) (rest : List Char) : trimStart (w ++ rest) = trimStart rest :=
  List.dropWhile_append_of_pos hw

theorem trimStart_gap (hw : IsGap w) (hc : isWhiteSpace c = false) (rest : List Char) :
    trimStart (w ++ c :: rest) = c :: rest := by
  rw [trimStart_append hw]
  exact trimStart_cons hc rest

theorem trimStart_idem (s : List Char) : trimStart (trimStart s) = trimStart s := List.dropWhile_idempotent _ _

theorem exists_gap (s : List Char) : ∃ w, IsGap w ∧ s = w ++ trimStart s :=
  ⟨_, List.all_eq_true.mp List.all_takeWhile, List.takeWhile_append_dropWhile.symm⟩

theorem trim_append (hw : IsGap w) (hw' : IsGap w') (hs : IsTrimmed s) : trim (w ++ (s ++ w')) = s := by
  obtain ⟨hfirst, hlast⟩ := hs
  have hend : trimEnd (s ++ w') = s := by
    rw [trimEnd, List.reverse_append, trimStart_append fun c hc => hw' c (List.mem_reverse.mp hc),
      trimStart_eq_self (by rwa [List.head?_reverse]), List.reverse_reverse]
  rw [trim, trimStart_append hw]
  cases s with
  | nil =>
      have hnone : trimStart w' = [] := List.dropWhile_eq_nil_iff.mpr hw'
      rw [List.nil_append, hnone]
      rfl
  | cons c s => rwa [List.cons_append, trimStart_cons (hfirst c rfl)]

theorem trim_eq_self (h : IsTrimmed s) : trim s = s := by
  have htrim := trim_append isGap_nil isGap_nil h
  rwa [List.nil_append, List.append_nil] at htrim

theorem IsVisible.isTrimmed (h : IsVisible s) : IsTrimmed s :=
  ⟨fun c hc => h c (List.mem_of_mem_head? hc), fun c hc => h c (List.mem_of_mem_getLast? hc)⟩

/-- White space may stand in the midst of a text. -/
theorem isTrimmed_append (hs : IsVisible s) (ht : IsVisible t) (hs' : s ≠ []) (ht' : t ≠ []) (rest : List Char) :
    IsTrimmed (s ++ (rest ++ t)) := by
  constructor
  · rw [List.head?_append_of_ne_nil _ hs']
    exact hs.isTrimmed.1
  · rw [← List.append_assoc, List.getLast?_append_of_ne_nil _ ht']
    exact ht.isTrimmed.2

theorem exists_trim (s : List Char) : ∃ w w', IsGap w ∧ IsGap w' ∧ s = w ++ (trim s ++ w') := by
  obtain ⟨w, hw, hs⟩ := exists_gap s
  obtain ⟨v, hv, hrest⟩ := exists_gap (trimStart s).reverse
  refine ⟨w, v.reverse, hw, fun c hc => hv c (List.mem_reverse.mp hc), ?_⟩
  have hends := congrArg List.reverse hrest
  rw [List.reverse_reverse, List.reverse_append] at hends
  rw [trim, trimEnd, ← hends]
  exact hs

theorem trim_eq_nil_iff : trim s = [] ↔ IsGap s := by
  constructor
  · intro h
    obtain ⟨w, w', hw, hw', hs⟩ := exists_trim s
    rw [h, List.nil_append] at hs
    rw [hs]
    exact List.forall_mem_append.mpr ⟨hw, hw'⟩
  · intro h
    have hempty : IsTrimmed [] := ⟨fun _ hc => (by cases hc), fun _ hc => (by cases hc)⟩
    have htrim := trim_append h isGap_nil hempty
    rwa [List.append_nil, List.append_nil] at htrim

end AlbumBrowser.Text
