import AlbumBrowser.Proofs.Calendar.Layouts

/-!
The texts that spell a date. A year has up to four digits, or a sign and any number of them; a month and a day have
one or two; white space may stand in front of each of the three numbers, and hyphens stand between them. The
layout of dates reads exactly these texts. A text spells one date only, which need not be on the calendar.
-/

namespace AlbumBrowser

open Calendar Text

namespace Text

variable {limit n : Nat} {s t rest w : List Char} {c : Char}

/-- White space in front of a number is skipped. -/
theorem SpellsNumber.takeNumber_gap (h : SpellsNumber limit n t) (hw : IsGap w)
    (hstops : t.length = limit ∨ Ends rest) : takeNumber limit (trimStart (w ++ (t ++ rest))) = some (n, rest) := by
  have hread := h.takeNumber_append hstops
  obtain ⟨c, run, rfl, hdigit⟩ := h.exists_cons
  rw [List.cons_append] at hread ⊢
  rw [trimStart_gap hw (isWhiteSpace_of_isDigit hdigit), hread]

theorem spellsNumber_of_gap (h : takeNumber limit (trimStart s) = some (n, rest)) :
    ∃ w t, IsGap w ∧ SpellsNumber limit n t ∧ (t.length = limit ∨ Ends rest) ∧ s = w ++ (t ++ rest) := by
  obtain ⟨w, hw, hs⟩ := exists_gap s
  obtain ⟨t, ht, hstops, hrest⟩ := takeNumber_eq_some_iff.mp h
  exact ⟨w, t, hw, ht, hstops, hrest ▸ hs⟩

/-- A text ends with two digits, or what follows does not go on with a digit: either way a number of up to two digits
at the end of the text is not read on into what follows. -/
def Closes (t rest : List Char) : Prop := Ends rest ∨ ∃ s a b, t = s ++ [a, b] ∧ IsDigits [a, b]

theorem closes_iff (hc : c.isDigit = false) (hw : IsGap w) (ht : SpellsNumber 2 n t) :
    Closes (s ++ c :: (w ++ t)) rest ↔ t.length = 2 ∨ Ends rest := by
  cases ht with
  | digits hdigits hne hlength =>
      constructor
      · rintro (hends | ⟨p, a, b, heq, hab⟩)
        · exact Or.inr hends
        · refine Or.inl (Nat.le_antisymm hlength (Nat.lt_of_not_le fun hone => ?_))
          obtain ⟨x, rfl⟩ := List.length_eq_one_iff.mp (Nat.le_antisymm hone (List.length_pos_iff.mpr hne))
          have hfront : s ++ c :: w = p ++ [a] := by
            have hlast : (s ++ c :: w) ++ [x] = (p ++ [a]) ++ [b] := by simpa using heq
            exact (List.append_inj' hlast rfl).1
          have hmem : a ∈ c :: w := by
            have hend := congrArg List.getLast? hfront
            have hne := List.cons_ne_nil c w
            rw [List.getLast?_append, List.getLast?_eq_some_getLast hne, Option.some_or, List.getLast?_concat] at hend
            exact Option.some.inj hend ▸ List.getLast_mem hne
          have ha := hab a List.mem_cons_self
          rcases List.mem_cons.mp hmem with rfl | hgap
          · rw [hc] at ha
            cases ha
          · have hspace := hw a hgap
            rw [isWhiteSpace_of_isDigit ha] at hspace
            cases hspace
      · rintro (htwo | hends)
        · obtain ⟨a, b, rfl⟩ := List.length_eq_two.mp htwo
          exact Or.inr ⟨s ++ c :: w, a, b, by simp, hdigits⟩
        · exact Or.inl hends

end Text

namespace Calendar

/-- A date, be it on the calendar or not. -/
inductive SpellsDate : Date → List Char → Prop
  | fields {year : Int} {month day : Nat} {w w' w'' t u v : List Char} (hw : IsGap w) (hyear : SpellsYear year t)
      (hw' : IsGap w') (hmonth : SpellsNumber 2 month u) (hw'' : IsGap w'') (hday : SpellsNumber 2 day v) :
      SpellsDate ⟨year, month, day⟩ (w ++ (t ++ '-' :: (w' ++ (u ++ '-' :: (w'' ++ v)))))

variable {year : Int} {d e : Date} {c c' : Civil} {s t w rest : List Char}

namespace SpellsYear

theorem exists_cons (h : SpellsYear year t) : ∃ x run, t = x :: run ∧ Unicode.isWhiteSpace x = false := by
  cases h with
  | plain h =>
      obtain ⟨x, run, rfl, hdigit⟩ := h.exists_cons
      exact ⟨x, run, rfl, isWhiteSpace_of_isDigit hdigit⟩
  | plus h => exact ⟨'+', _, rfl, by decide⟩
  | minus h => exact ⟨'-', _, rfl, by decide⟩

theorem takeYear_gap (h : SpellsYear year t) (hw : IsGap w) (hends : Ends rest) :
    takeYear (trimStart (w ++ (t ++ rest))) = some (year, rest) := by
  have hread := h.takeYear_append hends
  obtain ⟨x, run, rfl, hvisible⟩ := h.exists_cons
  rw [List.cons_append] at hread ⊢
  rw [trimStart_gap hw hvisible, hread]

end SpellsYear

theorem spellsYear_of_gap (h : takeYear (trimStart s) = some (year, rest)) :
    ∃ w t, IsGap w ∧ SpellsYear year t ∧ s = w ++ (t ++ rest) := by
  obtain ⟨w, hw, hs⟩ := exists_gap s
  obtain ⟨t, ht, hrest⟩ := spellsYear_of_takeYear h
  exact ⟨w, t, hw, ht, hrest ▸ hs⟩

namespace Layout

variable {layout : Layout} {a : Civil × List Char}

theorem exists_of_text {x : Char} (h : readFrom (.text x :: layout) c s = some a) :
    ∃ rest, s = x :: rest ∧ layout.readFrom c rest = some a := by
  cases s with
  | nil => cases h
  | cons y s =>
      by_cases hx : y = x
      · subst hx
        refine ⟨s, rfl, ?_⟩
        rwa [readFrom, Piece.read, if_pos rfl] at h
      · rw [readFrom, Piece.read, if_neg hx] at h
        cases h

/-- A field of two digits is a number with white space in front. -/
theorem exists_of_number {f : Field} (put : Nat → Civil → Civil)
    (hf : ∀ c s, f.read c s = (takeNumber 2 (trimStart s)).map fun (n, rest) => (put n c, rest))
    (h : readFrom (.field f :: layout) c s = some a) :
    ∃ n w t rest, IsGap w ∧ SpellsNumber 2 n t ∧ (t.length = 2 ∨ Ends rest) ∧ s = w ++ (t ++ rest) ∧
      layout.readFrom (put n c) rest = some a := by
  obtain ⟨⟨c', rest⟩, hpiece, hmore⟩ := Option.bind_eq_some_iff.mp h
  rw [Piece.read, hf] at hpiece
  obtain ⟨⟨n, after⟩, hnumber, heq⟩ := Option.map_eq_some_iff.mp hpiece
  cases heq
  obtain ⟨w, t, hw, ht, hstops, hs⟩ := spellsNumber_of_gap hnumber
  exact ⟨n, w, t, rest, hw, ht, hstops, hs, hmore⟩

theorem exists_of_year (h : readFrom (.field .year :: layout) c s = some a) :
    ∃ year w t rest, IsGap w ∧ SpellsYear year t ∧ s = w ++ (t ++ rest) ∧
      layout.readFrom { c with date.year := year } rest = some a := by
  obtain ⟨⟨c', rest⟩, hpiece, hmore⟩ := Option.bind_eq_some_iff.mp h
  obtain ⟨⟨year, after⟩, hyear, heq⟩ := Option.map_eq_some_iff.mp hpiece
  cases heq
  obtain ⟨w, t, hw, ht, hs⟩ := spellsYear_of_gap hyear
  exact ⟨year, w, t, rest, hw, ht, hs, hmore⟩

theorem date_readFrom_append (h : SpellsDate d t) (hcloses : Closes t rest) :
    date.readFrom c (t ++ rest) = some ({ c with date := d }, rest) := by
  cases h with
  | @fields year month day w w' w'' t u v hw hyear hw' hmonth hw'' hday =>
      have hdash : ∀ rest, Ends ('-' :: rest) := fun rest => ends_cons (by decide)
      rw [show w ++ (t ++ '-' :: (w' ++ (u ++ '-' :: (w'' ++ v)))) = (w ++ (t ++ '-' :: (w' ++ u))) ++ '-' :: (w'' ++ v)
        by simp, closes_iff (by decide) hw'' hday] at hcloses
      simp only [List.append_assoc, List.cons_append, date, readFrom, Piece.read, Field.read,
        hyear.takeYear_gap hw (hdash _), Option.map_some, Option.bind_some, if_true,
        hmonth.takeNumber_gap hw' (Or.inr (hdash _)), hday.takeNumber_gap hw'' hcloses]

theorem exists_of_date (h : date.readFrom c s = some (c', rest)) :
    ∃ d t, SpellsDate d t ∧ Closes t rest ∧ s = t ++ rest ∧ c' = { c with date := d } := by
  obtain ⟨year, w, t, s₁, hw, hyear, rfl, h₁⟩ := exists_of_year h
  obtain ⟨s₂, rfl, h₂⟩ := exists_of_text h₁
  obtain ⟨month, w', u, s₃, hw', hmonth, -, rfl, h₃⟩ :=
    exists_of_number (fun n c => { c with date.month := n }) (fun _ _ => rfl) h₂
  obtain ⟨s₄, rfl, h₄⟩ := exists_of_text h₃
  obtain ⟨day, w'', v, s₅, hw'', hday, hstops, rfl, h₅⟩ :=
    exists_of_number (fun n c => { c with date.day := n }) (fun _ _ => rfl) h₄
  cases h₅
  have hdash : '-'.isDigit = false := by decide
  have hcloses := (closes_iff (s := w ++ (t ++ '-' :: (w' ++ u))) hdash hw'' hday).mpr hstops
  refine ⟨_, _, .fields hw hyear hw' hmonth hw'' hday, ?_, ?_, rfl⟩
  · simpa using hcloses
  · simp

/-- The layout of dates reads the texts that spell a date of the calendar in a year that is kept. -/
theorem date_read_eq_some_iff :
    date.read s = some c ↔ ∃ d, SpellsDate d s ∧ d.Valid ∧ c = { Civil.zero with date := d } := by
  rw [read_eq_some_iff]
  constructor
  · rintro ⟨hread, hvalid⟩
    obtain ⟨d, t, hspells, -, rfl, rfl⟩ := exists_of_date hread
    rw [List.append_nil]
    exact ⟨d, hspells, hvalid.1, rfl⟩
  · rintro ⟨d, hspells, hd, rfl⟩
    have hread := date_readFrom_append (c := Civil.zero) hspells (Or.inl ends_nil)
    rw [List.append_nil] at hread
    exact ⟨hread, hd, Nat.zero_le _, Nat.zero_le _, Nat.zero_le _⟩

end Layout

theorem SpellsDate.unique (hd : SpellsDate d s) (he : SpellsDate e s) : e = d := by
  have hread := Layout.date_readFrom_append (c := Civil.zero) hd (Or.inl ends_nil)
  rw [Layout.date_readFrom_append he (Or.inl ends_nil)] at hread
  cases hread
  rfl

end Calendar

end AlbumBrowser
