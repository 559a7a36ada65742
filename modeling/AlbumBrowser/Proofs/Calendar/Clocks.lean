import AlbumBrowser.Proofs.Calendar.Dates

/-!
The texts that spell a time of day. Hours, minutes and seconds have one or two digits each, colons stand between them,
and white space may stand in front of each. A fraction of a second is a point and the digits behind it. The layouts
of hours and minutes, and of what may follow them down to the fraction, read exactly these texts. A text spells
one time of day only, which need not be on the clock.
-/

namespace AlbumBrowser.Calendar

open Text

/-- Hours and minutes. -/
inductive SpellsClock : Nat → Nat → List Char → Prop
  | fields {hour minute : Nat} {w w' t u : List Char} (hw : IsGap w) (hhour : SpellsNumber 2 hour t) (hw' : IsGap w')
      (hminute : SpellsNumber 2 minute u) : SpellsClock hour minute (w ++ (t ++ ':' :: (w' ++ u)))

/-- A fraction of a second in whole nanoseconds, or none. -/
inductive SpellsFraction : Nat → List Char → Prop
  | none : SpellsFraction 0 []
  | digits {run : List Char} (hdigits : IsDigits run) (hne : run ≠ []) :
      SpellsFraction (ofDigits run * 10 ^ 9 / 10 ^ run.length) ('.' :: run)

/-- Seconds with a fraction. -/
inductive SpellsSeconds : Nat → Nat → List Char → Prop
  | fields {second nano : Nat} {w t u : List Char} (hw : IsGap w) (hsecond : SpellsNumber 2 second t)
      (hfraction : SpellsFraction nano u) : SpellsSeconds second nano (w ++ (t ++ u))

variable {hour minute second nano hour' minute' : Nat} {c c' : Civil} {s t rest : List Char}

/-! ### Fractions -/

/-- The digits past the ninth are what is lost when the fraction is put into whole nanoseconds. -/
theorem nanosOfDigits_eq {run : List Char} (h : IsDigits run) :
    nanosOfDigits run = ofDigits run * 10 ^ 9 / 10 ^ run.length := by
  have hpos : ∀ k : Nat, 0 < 10 ^ k := fun k => Nat.pow_pos (by decide)
  change ofDigits (run.take 9) * 10 ^ (9 - run.length) = _
  by_cases hshort : run.length ≤ 9
  · have hscale : 10 ^ 9 = 10 ^ (9 - run.length) * 10 ^ run.length := by
      rw [← Nat.pow_add, Nat.sub_add_cancel hshort]
    rw [List.take_of_length_le hshort, hscale, ← Nat.mul_assoc, Nat.mul_div_cancel _ (hpos _)]
  · have hsplit : ofDigits run = 10 ^ (run.length - 9) * ofDigits (run.take 9) + ofDigits (run.drop 9) := by
      rw [← List.length_drop, ← ofDigits_append, List.take_append_drop]
    have hlost : ofDigits (run.drop 9) < 10 ^ (run.length - 9) := by
      rw [← List.length_drop]
      exact ofDigits_lt fun c hc => h c (List.mem_of_mem_drop hc)
    have hscale : 10 ^ run.length = 10 ^ (run.length - 9) * 10 ^ 9 := by
      rw [← Nat.pow_add, Nat.sub_add_cancel (Nat.le_of_not_le hshort)]
    rw [Nat.sub_eq_zero_of_le (Nat.le_of_not_le hshort), Nat.pow_zero, Nat.mul_one, hscale,
      Nat.mul_div_mul_right _ _ (hpos 9), hsplit, Nat.mul_add_div (hpos _), Nat.div_eq_of_lt hlost, Nat.add_zero]

namespace SpellsFraction

theorem of_eq {run : List Char} (hdigits : IsDigits run) (hne : run ≠ [])
    (h : ofDigits run * 10 ^ 9 / 10 ^ run.length = nano) : SpellsFraction nano ('.' :: run) :=
  h ▸ .digits hdigits hne

theorem takeFraction_append (h : SpellsFraction nano t) (hends : Ends rest) (hpoint : ∀ x ∈ rest.head?, x ≠ '.') :
    takeFraction (t ++ rest) = some (nano, rest) := by
  cases h with
  | none =>
      rw [List.nil_append]
      unfold takeFraction
      split
      · exact absurd rfl (hpoint '.' rfl)
      · rfl
  | digits hdigits hne =>
      rw [List.cons_append, takeFraction,
        splitDigits_run hdigits (by rw [List.length_append]; exact Nat.le_add_right _ _) (Or.inr hends),
        ← nanosOfDigits_eq hdigits]
      exact if_neg hne

theorem ends_append (h : SpellsFraction nano t) (hends : Ends rest) : Ends (t ++ rest) := by
  cases h with
  | none => exact hends
  | digits => exact ends_cons (by decide)

end SpellsFraction

theorem exists_of_takeFraction (h : takeFraction s = some (nano, rest)) :
    ∃ t, SpellsFraction nano t ∧ s = t ++ rest := by
  unfold takeFraction at h
  split at h
  · rename_i s
    have happend := splitDigits_append s.length s
    have hall := all_splitDigits s.length s
    split at h
    rename_i run after hrun
    rw [hrun] at happend hall
    split at h
    · cases h
    · rename_i hne
      cases h
      have hdigits : IsDigits run := List.all_eq_true.mp hall
      rw [nanosOfDigits_eq hdigits]
      exact ⟨'.' :: run, .digits hdigits hne, congrArg ('.' :: ·) happend.symm⟩
  · cases h
    exact ⟨[], .none, rfl⟩

/-! ### Layouts -/

namespace Layout

theorem clock_readFrom_append (h : SpellsClock hour minute t) (hends : Ends rest) :
    clock.readFrom c (t ++ rest) = some ({ c with hour := hour, minute := minute }, rest) := by
  cases h with
  | fields hw hhour hw' hminute =>
      have hcolon : ∀ rest, Ends (':' :: rest) := fun rest => ends_cons (by decide)
      simp only [List.append_assoc, List.cons_append, clock, readFrom, Piece.read, Field.read,
        hhour.takeNumber_gap hw (Or.inr (hcolon _)), Option.map_some, Option.bind_some, if_true,
        hminute.takeNumber_gap hw' (Or.inr hends)]

theorem exists_of_clock (h : clock.readFrom c s = some (c', rest)) :
    ∃ hour minute t, SpellsClock hour minute t ∧ s = t ++ rest ∧ c' = { c with hour := hour, minute := minute } := by
  obtain ⟨hour, w, t, s₁, hw, hhour, -, rfl, h₁⟩ :=
    exists_of_number (fun n c => { c with hour := n }) (fun _ _ => rfl) h
  obtain ⟨s₂, rfl, h₂⟩ := exists_of_text h₁
  obtain ⟨minute, w', u, s₃, hw', hminute, -, rfl, h₃⟩ :=
    exists_of_number (fun n c => { c with minute := n }) (fun _ _ => rfl) h₂
  cases h₃
  exact ⟨hour, minute, _, .fields hw hhour hw' hminute, by simp, rfl⟩

theorem clock_readFrom_eq_some_iff : clock.readFrom c s = some (c', []) ↔
    ∃ hour minute, SpellsClock hour minute s ∧ c' = { c with hour := hour, minute := minute } := by
  constructor
  · intro h
    obtain ⟨hour, minute, t, hspells, rfl, rfl⟩ := exists_of_clock h
    rw [List.append_nil]
    exact ⟨hour, minute, hspells, rfl⟩
  · rintro ⟨hour, minute, hspells, rfl⟩
    have hread := clock_readFrom_append (c := c) hspells ends_nil
    rwa [List.append_nil] at hread

/-- The layout of hours and minutes reads the texts that spell a time of day on the clock. -/
theorem clock_read_eq_some_iff : clock.read s = some c ↔
    ∃ hour minute, SpellsClock hour minute s ∧ (hour ≤ 23 ∧ minute ≤ 59) ∧
      c = { Civil.zero with hour := hour, minute := minute } := by
  rw [read_eq_some_iff, clock_readFrom_eq_some_iff]
  constructor
  · rintro ⟨⟨hour, minute, hspells, rfl⟩, -, hhour, hminute, -⟩
    exact ⟨hour, minute, hspells, ⟨hhour, hminute⟩, rfl⟩
  · rintro ⟨hour, minute, hspells, ⟨hhour, hminute⟩, rfl⟩
    have hsomeDay : Civil.zero.date.Valid := by decide
    exact ⟨⟨hour, minute, hspells, rfl⟩, hsomeDay, hhour, hminute, Nat.zero_le _⟩

/-- What stands behind the minutes in the layouts down to the fraction. -/
theorem seconds_readFrom_eq_some_iff :
    readFrom [.text ':', .field .second, .field .fraction] c s = some (c', []) ↔
      ∃ second nano t, SpellsSeconds second nano t ∧ s = ':' :: t ∧ c' = { c with second := second, nano := nano } := by
  constructor
  · intro h
    obtain ⟨s₁, rfl, h₁⟩ := exists_of_text h
    obtain ⟨second, w, t, s₂, hw, hsecond, -, rfl, h₂⟩ :=
      exists_of_number (fun n c => { c with second := n }) (fun _ _ => rfl) h₁
    obtain ⟨⟨c₃, s₃⟩, hpiece, h₃⟩ := Option.bind_eq_some_iff.mp h₂
    obtain ⟨⟨nano, rest⟩, hfraction, heq⟩ := Option.map_eq_some_iff.mp hpiece
    cases heq
    cases h₃
    obtain ⟨u, hu, rfl⟩ := exists_of_takeFraction hfraction
    rw [List.append_nil]
    exact ⟨second, nano, _, .fields hw hsecond hu, rfl, rfl⟩
  · rintro ⟨second, nano, _, ⟨hw, hsecond, hfraction⟩, rfl, rfl⟩
    have hends := hfraction.ends_append ends_nil
    have hread := hfraction.takeFraction_append ends_nil (fun _ h => by cases h)
    rw [List.append_nil] at hends hread
    simp only [readFrom, Piece.read, Field.read, if_true, Option.bind_some,
      hsecond.takeNumber_gap hw (Or.inr hends), Option.map_some, hread]

/-- Hours and minutes in front of a character that ends the text. -/
theorem clock_text_readFrom_eq_some_iff {x : Char} (hx : x.isDigit = false) :
    readFrom (clock ++ [.text x]) c s = some (c', []) ↔ ∃ hour minute t, SpellsClock hour minute t ∧ s = t ++ [x] ∧
      c' = { c with hour := hour, minute := minute } := by
  rw [readFrom_append, Option.bind_eq_some_iff]
  constructor
  · rintro ⟨⟨c₁, s₁⟩, hclock, htext⟩
    obtain ⟨hour, minute, t, hspells, rfl, rfl⟩ := exists_of_clock hclock
    obtain ⟨s₂, rfl, hrest⟩ := exists_of_text htext
    cases hrest
    exact ⟨hour, minute, t, hspells, rfl, rfl⟩
  · rintro ⟨hour, minute, t, hspells, rfl, rfl⟩
    refine ⟨_, clock_readFrom_append hspells (ends_cons hx), ?_⟩
    simp [readFrom, Piece.read]

theorem clockToFraction_readFrom_eq_some_iff : clockToFraction.readFrom c s = some (c', []) ↔
    ∃ hour minute second nano t u, SpellsClock hour minute t ∧ SpellsSeconds second nano u ∧ s = t ++ ':' :: u ∧
      c' = { c with hour := hour, minute := minute, second := second, nano := nano } := by
  rw [clockToFraction, readFrom_append, Option.bind_eq_some_iff]
  constructor
  · rintro ⟨⟨c₁, s₁⟩, hclock, hseconds⟩
    obtain ⟨hour, minute, t, hspells, rfl, rfl⟩ := exists_of_clock hclock
    obtain ⟨second, nano, u, hspells', rfl, rfl⟩ := seconds_readFrom_eq_some_iff.mp hseconds
    exact ⟨hour, minute, second, nano, t, u, hspells, hspells', rfl, rfl⟩
  · rintro ⟨hour, minute, second, nano, t, u, hspells, hspells', rfl, rfl⟩
    exact ⟨_, clock_readFrom_append hspells (ends_cons (by decide)),
      seconds_readFrom_eq_some_iff.mpr ⟨second, nano, u, hspells', rfl, rfl⟩⟩

end Layout

theorem SpellsClock.unique (h : SpellsClock hour minute s) (h' : SpellsClock hour' minute' s) :
    hour' = hour ∧ minute' = minute := by
  have hread := Layout.clock_readFrom_append (c := Civil.zero) h ends_nil
  rw [Layout.clock_readFrom_append h' ends_nil] at hread
  cases hread
  exact ⟨rfl, rfl⟩

end AlbumBrowser.Calendar
