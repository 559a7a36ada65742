/-!
Pieces of a text: whether one text occurs in another, the two sides of a first separator, what follows
the last one, and the text behind a given beginning.
-/

namespace AlbumBrowser.Text

/-- Whether `part` occurs in a text as an unbroken run of its characters. -/
def occursIn (part : List Char) : List Char → Bool
  | [] => part.isEmpty
  | c :: rest => part.isPrefixOf (c :: rest) || occursIn part rest

theorem occursIn_iff {part s : List Char} : occursIn part s = true ↔ part <:+: s := by
  induction s with
  | nil => simp [occursIn, List.infix_nil]
  | cons c rest ih => simp [occursIn, ih, List.infix_cons_iff]

/-- What stands before and after the first separator, if there is one. -/
def cut? (separator : Char) : List Char → Option (List Char × List Char)
  | [] => none
  | c :: rest =>
    if c = separator then some ([], rest)
    else (cut? separator rest).map fun (before, after) => (c :: before, after)

/-- A text is cut at the first separator and nowhere else. -/
theorem cut?_eq_some_iff {separator : Char} {s before after : List Char} :
    cut? separator s = some (before, after) ↔ separator ∉ before ∧ s = before ++ separator :: after := by
  induction s generalizing before with
  | nil => simp [cut?]
  | cons c rest ih =>
    by_cases hc : c = separator
    · subst hc
      cases before with
      | nil => simp [cut?]
      | cons b before => simp [cut?]; grind
    · cases before with
      | nil => simp [cut?, hc]
      | cons b before =>
        simp only [cut?, hc, if_false, Option.map_eq_some_iff, Prod.exists, Prod.mk.injEq, List.cons.injEq]
        constructor
        · rintro ⟨u, v, huv, ⟨rfl, rfl⟩, rfl⟩
          have := ih.mp huv
          simp [this, Ne.symm hc]
        · rintro ⟨hmem, rfl, rfl⟩
          exact ⟨before, after, ih.mpr ⟨fun hb => hmem (List.mem_cons_of_mem _ hb), rfl⟩, ⟨rfl, rfl⟩, rfl⟩

/-- What stands after the last separator, or the whole text where there is none. -/
def lastPiece (separator : Char) (s : List Char) : List Char :=
  (s.reverse.takeWhile (· ≠ separator)).reverse

theorem lastPiece_append {separator : Char} {after : List Char} (h : separator ∉ after) (before : List Char) :
    lastPiece separator (before ++ separator :: after) = after := by
  have hall : ∀ c ∈ after.reverse, decide (c ≠ separator) = true := by
    intro c hc
    have : c ∈ after := List.mem_reverse.mp hc
    exact decide_eq_true fun he => h (he ▸ this)
  simp only [lastPiece, List.reverse_append, List.reverse_cons, List.append_assoc]
  rw [List.takeWhile_append_of_pos hall]
  simp

theorem lastPiece_of_notMem {separator : Char} {s : List Char} (h : separator ∉ s) : lastPiece separator s = s := by
  have hall : ∀ c ∈ s.reverse, decide (c ≠ separator) = true := by
    intro c hc
    have : c ∈ s := List.mem_reverse.mp hc
    exact decide_eq_true fun he => h (he ▸ this)
  rw [lastPiece, ← List.append_nil s.reverse, List.takeWhile_append_of_pos hall]
  simp

/-- The text behind a given beginning, if it has that beginning. -/
def behind? (start s : List Char) : Option (List Char) :=
  if start <+: s then some (s.drop start.length) else none

theorem behind?_eq_some_iff {start s rest : List Char} : behind? start s = some rest ↔ s = start ++ rest := by
  unfold behind?
  split
  · rename_i h
    obtain ⟨t, rfl⟩ := h
    simp [eq_comm]
  · rename_i h
    simp only [reduceCtorEq, false_iff]
    rintro rfl
    exact h (List.prefix_append start rest)

end AlbumBrowser.Text
