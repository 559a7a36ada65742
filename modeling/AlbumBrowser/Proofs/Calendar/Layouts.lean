import AlbumBrowser.Calendar.Layout
import AlbumBrowser.Proofs.Text.Digits

/-!
Reading undoes writing. A layout writes every field in its full width; so if each field has a character behind it
that is no digit, what a layout writes is read back field by field. A date or time that has been put into
its full width is therefore not changed by doing so again. What else is read as a number or a year is said by
the texts that spell one; full width is one way to do so.
-/

namespace AlbumBrowser

open Calendar Text

namespace Calendar

variable {c acc : Civil} {rest : List Char}

theorem day_le {d : Date} (h : d.OnCalendar) : d.day ≤ 31 := by
  have hmonth : daysInMonth d.year d.month ≤ 31 := by
    unfold daysInMonth
    split
    · split <;> decide
    · split <;> decide
  exact Nat.le_trans h.2.2 hmonth

theorem takeYear_of_isDigit {d : Char} (h : d.isDigit = true) (s : List Char) :
    takeYear (d :: s) = (takeNumber 4 (d :: s)).map fun (n, rest) => (Int.ofNat n, rest) := by
  unfold takeYear
  split
  · rename_i heq
    cases heq
    cases h
  · rename_i heq
    cases heq
    cases h
  · rfl

/-- A year, in up to four digits or with a sign. -/
inductive SpellsYear : Int → List Char → Prop
  | plain {n : Nat} {t : List Char} (h : SpellsNumber 4 n t) : SpellsYear n t
  | plus {limit n : Nat} {t : List Char} (h : SpellsNumber limit n t) : SpellsYear n ('+' :: t)
  | minus {limit n : Nat} {t : List Char} (h : SpellsNumber limit n t) : SpellsYear (-n) ('-' :: t)

variable {year : Int} {s t : List Char}

theorem SpellsYear.takeYear_append (h : SpellsYear year t) (hends : Ends rest) :
    takeYear (t ++ rest) = some (year, rest) := by
  -- Behind a sign the reader takes all digits that there are.
  have hsigned : ∀ {limit n t}, SpellsNumber limit n t →
      takeNumber (t ++ rest).length (t ++ rest) = some (n, rest) := by
    intro limit n t ht
    refine (ht.widen ?_).takeNumber_append (Or.inr hends)
    rw [List.length_append]
    exact Nat.le_add_right _ _
  cases h with
  | plain h =>
      have hread := h.takeNumber_append (Or.inr hends)
      obtain ⟨x, run, rfl, hdigit⟩ := h.exists_cons
      rw [List.cons_append] at hread ⊢
      rw [takeYear_of_isDigit hdigit, hread]
      rfl
  | plus h =>
      rw [List.cons_append, takeYear, hsigned h]
      rfl
  | minus h =>
      rw [List.cons_append, takeYear, hsigned h]
      rfl

theorem spellsYear_of_takeYear (h : takeYear s = some (year, rest)) : ∃ t, SpellsYear year t ∧ s = t ++ rest := by
  unfold takeYear at h
  split at h
  · obtain ⟨⟨n, after⟩, hread, heq⟩ := Option.map_eq_some_iff.mp h
    cases heq
    obtain ⟨t, ht, -, rfl⟩ := takeNumber_eq_some_iff.mp hread
    exact ⟨_, .plus ht, rfl⟩
  · obtain ⟨⟨n, after⟩, hread, heq⟩ := Option.map_eq_some_iff.mp h
    cases heq
    obtain ⟨t, ht, -, rfl⟩ := takeNumber_eq_some_iff.mp hread
    exact ⟨_, .minus ht, rfl⟩
  · obtain ⟨⟨n, after⟩, hread, heq⟩ := Option.map_eq_some_iff.mp h
    cases heq
    obtain ⟨t, ht, -, rfl⟩ := takeNumber_eq_some_iff.mp hread
    exact ⟨t, .plain ht, rfl⟩

/-- A year is written with four digits, or with a sign in front of them. -/
theorem spellsYear_yearText (year : Int) : SpellsYear year (yearText year) := by
  have hrun : SpellsNumber _ year.natAbs (paddedDigits 4 year.natAbs) := spellsNumber_paddedDigits (Nat.le_refl _)
  unfold yearText
  split
  · have h := SpellsYear.minus hrun
    rwa [show -(year.natAbs : Int) = year by omega] at h
  · rename_i hpos
    have hvalue : (year.natAbs : Int) = year := by omega
    split
    · have hwidth : (paddedDigits 4 year.natAbs).length = 4 := length_paddedDigits (by decide) (by omega)
      have h := SpellsYear.plain (hrun.widen (Nat.le_of_eq hwidth))
      rwa [hvalue] at h
    · have h := SpellsYear.plus hrun
      rwa [hvalue] at h

/-- A date and time with a field taken from another one. -/
def Field.carry (f : Field) (c acc : Civil) : Civil :=
  match f with
  | .year => { acc with date.year := c.date.year }
  | .month => { acc with date.month := c.date.month }
  | .day => { acc with date.day := c.date.day }
  | .hour => { acc with hour := c.hour }
  | .minute => { acc with minute := c.minute }
  | .second => { acc with second := c.second }
  | .fraction => { acc with nano := c.nano }

/-- A field of two digits, between white space that is not there and the rest of a text. -/
theorem takeNumber_two {n : Nat} (h : n ≤ 99) (rest : List Char) :
    takeNumber 2 (trimStart (paddedDigits 2 n ++ rest)) = some (n, rest) := by
  have hwidth : (paddedDigits 2 n).length = 2 := length_paddedDigits (by decide) (Nat.lt_succ_of_le h)
  rw [trimStart_paddedDigits]
  exact (spellsNumber_paddedDigits (Nat.le_of_eq hwidth)).takeNumber_append (Or.inl hwidth)

theorem trimStart_yearText (year : Int) (rest : List Char) :
    trimStart (yearText year ++ rest) = yearText year ++ rest := by
  unfold yearText
  split
  · exact trimStart_cons (by decide) _
  · split
    · exact trimStart_paddedDigits 4 _ rest
    · exact trimStart_cons (by decide) _

theorem Field.read_write {f : Field} (hf : f ≠ .fraction) (hc : c.Valid) (hends : Ends rest) :
    f.read acc (f.write c ++ rest) = some (f.carry c acc, rest) := by
  obtain ⟨⟨-, hdate⟩, hhour, hminute, hsecond⟩ := hc
  have hday := day_le hdate
  obtain ⟨⟨-, hmonth⟩, -⟩ := hdate
  cases f with
  | year => rw [read, write, trimStart_yearText, (spellsYear_yearText _).takeYear_append hends]; rfl
  | month => rw [read, write, takeNumber_two (by omega)]; rfl
  | day => rw [read, write, takeNumber_two (by omega)]; rfl
  | hour => rw [read, write, takeNumber_two (by omega)]; rfl
  | minute => rw [read, write, takeNumber_two (by omega)]; rfl
  | second => rw [read, write, takeNumber_two (by omega)]; rfl
  | fraction => exact absurd rfl hf

namespace Layout

/-- A date and time with the fields of a layout taken from another one. -/
def carry (layout : Layout) (c acc : Civil) : Civil :=
  layout.foldl (fun acc p => match p with
    | .field f => f.carry c acc
    | _ => acc) acc

/-- Whether what a layout writes begins with a character that is no digit, if with any. -/
def startsApart : Layout → Bool
  | [] => true
  | .text x :: _ => !x.isDigit
  | _ => false

/-- Whether a layout consists of numbers and of characters that set them apart. -/
def isPlain : Layout → Bool
  | [] => true
  | .field f :: layout => f ≠ .fraction && startsApart layout && isPlain layout
  | .text _ :: layout => isPlain layout
  | .gap :: _ => false

variable {layout : Layout}

/-- A layout is read piece by piece, wherever it is cut in two. -/
theorem readFrom_append (layout layout' : Layout) (c : Civil) (s : List Char) :
    readFrom (layout ++ layout') c s = (layout.readFrom c s).bind fun (c, rest) => layout'.readFrom c rest := by
  induction layout generalizing c s with
  | nil => rfl
  | cons p layout ih =>
      rw [List.cons_append, readFrom, readFrom, Option.bind_assoc]
      exact Option.bind_congr fun _ _ => ih _ _

theorem ends_write (h : layout.startsApart = true) (hends : Ends rest) : Ends (layout.write c ++ rest) := by
  match layout, h with
  | [], _ => exact hends
  | .text x :: layout, h => exact ends_cons (by simpa [startsApart] using h)

/-- What a plain layout writes is read back field by field. -/
theorem readFrom_write (hplain : layout.isPlain = true) (hc : c.Valid) (hends : Ends rest) :
    layout.readFrom acc (layout.write c ++ rest) = some (layout.carry c acc, rest) := by
  induction layout generalizing acc with
  | nil => rfl
  | cons p layout ih =>
      rw [write, List.flatMap_cons, List.append_assoc, readFrom]
      cases p with
      | field f =>
          simp only [isPlain, Bool.and_eq_true, decide_eq_true_eq] at hplain
          obtain ⟨⟨hf, hapart⟩, hrest⟩ := hplain
          change (f.read acc (f.write c ++ (write layout c ++ rest))).bind _ = _
          rw [Field.read_write hf hc (ends_write hapart hends)]
          exact ih hrest
      | text x =>
          change (if x = x then some (acc, write layout c ++ rest) else none).bind _ = _
          rw [if_pos rfl]
          exact ih hplain
      | gap => cases hplain

theorem valid_of_read {s : List Char} (h : layout.read s = some c) :
    c.Valid := by
  unfold read at h
  split at h
  · split at h
    · cases h
      assumption
    · cases h
  · cases h

theorem read_eq_some_iff {s : List Char} :
    layout.read s = some c ↔ layout.readFrom Civil.zero s = some (c, []) ∧ c.Valid := by
  constructor
  · intro h
    refine ⟨?_, valid_of_read h⟩
    unfold read at h
    split at h
    · rename_i read hread
      split at h
      · cases h
        exact hread
      · cases h
    · cases h
  · rintro ⟨hread, hvalid⟩
    rw [read, hread]
    exact if_pos hvalid

/-- A plain layout reads back what it writes, if its fields name a date and time by themselves. -/
theorem read_write (hplain : layout.isPlain = true) (hc : c.Valid) (hcarry : (layout.carry c Civil.zero).Valid) :
    layout.read (layout.write c) = some (layout.carry c Civil.zero) := by
  have hread : layout.readFrom Civil.zero (layout.write c ++ []) = some (layout.carry c Civil.zero, []) :=
    readFrom_write hplain hc ends_nil
  rw [List.append_nil] at hread
  exact read_eq_some_iff.mpr ⟨hread, hcarry⟩

end Layout

end Calendar

end AlbumBrowser
