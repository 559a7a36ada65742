import AlbumBrowser.Calendar.OffsetTime
import AlbumBrowser.Proofs.Calendar.Clocks
import AlbumBrowser.Proofs.Text.FullWidth

/-!
Dates and times in full width, and those with an offset. In full width every number has just its digits and nothing
stands between the numbers but the characters that set them apart, so these texts are among those that spell a
date or a time of day. The reader of times with an offset takes no others, and behind them `Z`, in either case, or a
sign with hours and minutes in full width.
-/

namespace AlbumBrowser.Calendar

open Text

/-! ### Full width -/

/-- `YYYY-MM-DD` -/
inductive WritesDate : Date → List Char → Prop
  | fields {year month day : Nat} {t u v : List Char} (hyear : WritesNumber 4 year t) (hmonth : WritesNumber 2 month u)
      (hday : WritesNumber 2 day v) : WritesDate ⟨year, month, day⟩ (t ++ '-' :: (u ++ '-' :: v))

/-- `HH:MM` -/
inductive WritesClock : Nat → Nat → List Char → Prop
  | fields {hour minute : Nat} {t u : List Char} (hhour : WritesNumber 2 hour t) (hminute : WritesNumber 2 minute u) :
      WritesClock hour minute (t ++ ':' :: u)

/-- `SS` and a fraction -/
inductive WritesSeconds : Nat → Nat → List Char → Prop
  | fields {second nano : Nat} {t u : List Char} (hsecond : WritesNumber 2 second t)
      (hfraction : SpellsFraction nano u) : WritesSeconds second nano (t ++ u)

/-- `YYYY-MM-DD` and `HH:MM:SS` with a fraction, and a mark between the two -/
inductive WritesCivil (mark : Char) : Civil → List Char → Prop
  | fields {d : Date} {hour minute second nano : Nat} {t u v : List Char} (hdate : WritesDate d t)
      (hclock : WritesClock hour minute u) (hseconds : WritesSeconds second nano v) :
      WritesCivil mark ⟨d, hour, minute, second, nano⟩ (t ++ mark :: (u ++ ':' :: v))

/-- `Z`, `+HH:MM` or `-HH:MM`, as seconds east of the zero meridian. The minus sign may also be U+2212. -/
inductive SpellsOffset : Int → List Char → Prop
  | zero {x : Char} (hx : x = 'Z' ∨ x = 'z') : SpellsOffset 0 [x]
  | east {hour minute : Nat} {t : List Char} (h : WritesClock hour minute t) (hhour : hour ≤ 23)
      (hminute : minute ≤ 59) : SpellsOffset (3600 * hour + 60 * minute) ('+' :: t)
  | west {x : Char} {hour minute : Nat} {t : List Char} (hx : x = '-' ∨ x = '\u2212') (h : WritesClock hour minute t)
      (hhour : hour ≤ 23) (hminute : minute ≤ 59) : SpellsOffset (-(3600 * hour + 60 * minute)) (x :: t)

/-- A date and time in full width with an offset behind it, as the moment that it names. -/
inductive SpellsOffsetTime : Moment → List Char → Prop
  | fields {mark : Char} {c : Civil} {offset : Int} {t u : List Char} (hmark : mark = 'T' ∨ mark = 't' ∨ mark = ' ')
      (ht : WritesCivil mark c t) (hc : c.Valid) (hu : SpellsOffset offset u) :
      SpellsOffsetTime (c.moment.shift (-offset)) (t ++ u)

variable {hour minute second nano : Nat} {d : Date} {c : Civil} {offset : Int} {m : Moment} {mark : Char}
  {s t rest : List Char}

theorem WritesDate.spells (h : WritesDate d t) : SpellsDate d t := by
  cases h with
  | fields hyear hmonth hday =>
      have hgap : IsGap [] := fun _ hx => absurd hx List.not_mem_nil
      exact .fields hgap (.plain (hyear.spells (by decide))) hgap (hmonth.spells (by decide)) hgap
        (hday.spells (by decide))

/-- A date in full width ends with its two digits, whatever follows. -/
theorem WritesDate.closes (h : WritesDate d t) (rest : List Char) : Closes t rest := by
  cases h with
  | @fields year month day t u v hyear hmonth hday =>
      obtain ⟨a, b, rfl⟩ := List.length_eq_two.mp hday.length_eq
      exact Or.inr ⟨t ++ '-' :: (u ++ ['-']), a, b, by simp, hday.isDigits⟩

theorem WritesClock.spells (h : WritesClock hour minute t) : SpellsClock hour minute t := by
  cases h with
  | fields hhour hminute =>
      have hgap : IsGap [] := fun _ hx => absurd hx List.not_mem_nil
      exact .fields hgap (hhour.spells (by decide)) hgap (hminute.spells (by decide))

theorem WritesSeconds.spells (h : WritesSeconds second nano t) : SpellsSeconds second nano t := by
  cases h with
  | fields hsecond hfraction =>
      have hgap : IsGap [] := fun _ hx => absurd hx List.not_mem_nil
      exact .fields hgap (hsecond.spells (by decide)) hfraction

theorem WritesDate.length_eq (h : WritesDate d t) : t.length = 10 := by
  obtain ⟨hyear, hmonth, hday⟩ := h
  simp [hyear.length_eq, hmonth.length_eq, hday.length_eq]

/-! ### White space

Only between a date and a time there may be some. -/

theorem WritesDate.isVisible (h : WritesDate d t) : IsVisible t := by
  obtain ⟨hyear, hmonth, hday⟩ := h
  refine List.forall_mem_append.mpr ⟨hyear.isVisible, List.forall_mem_cons.mpr ⟨by decide, ?_⟩⟩
  exact List.forall_mem_append.mpr ⟨hmonth.isVisible, List.forall_mem_cons.mpr ⟨by decide, hday.isVisible⟩⟩

theorem WritesClock.isVisible (h : WritesClock hour minute t) : IsVisible t := by
  obtain ⟨hhour, hminute⟩ := h
  exact List.forall_mem_append.mpr ⟨hhour.isVisible, List.forall_mem_cons.mpr ⟨by decide, hminute.isVisible⟩⟩

theorem WritesSeconds.isVisible (h : WritesSeconds second nano t) : IsVisible t := by
  obtain ⟨hsecond, hfraction⟩ := h
  refine List.forall_mem_append.mpr ⟨hsecond.isVisible, ?_⟩
  cases hfraction with
  | none => exact fun _ hx => absurd hx List.not_mem_nil
  | digits hdigits =>
      exact List.forall_mem_cons.mpr ⟨by decide, fun x hx => isWhiteSpace_of_isDigit (hdigits x hx)⟩

theorem SpellsOffset.isVisible (h : SpellsOffset offset t) : IsVisible t := by
  cases h with
  | zero hx => rcases hx with rfl | rfl <;> exact List.forall_mem_singleton.mpr (by decide)
  | east h => exact List.forall_mem_cons.mpr ⟨by decide, h.isVisible⟩
  | west hx h => exact List.forall_mem_cons.mpr ⟨by rcases hx with rfl | rfl <;> decide, h.isVisible⟩

/-! ### Reading -/

namespace OffsetTime

theorem expect_eq_some_iff {test : Char → Bool} :
    expect test s = some rest ↔ ∃ x, test x = true ∧ s = x :: rest := by
  cases s with
  | nil => simp [expect]
  | cons y s => by_cases hy : test y = true <;> simp [expect, hy]

theorem takeExactly_append {width n : Nat} (h : WritesNumber width n t) (rest : List Char) :
    takeExactly width (t ++ rest) = some (n, rest) := takeExactly_eq_some_iff.mpr ⟨t, h, rfl⟩

theorem expect_colon (rest : List Char) : expect (· = ':') (':' :: rest) = some rest := rfl

/-! ### Dates and times -/

theorem takeCivil_append (h : WritesCivil mark c t) (hmark : mark = 'T' ∨ mark = 't' ∨ mark = ' ') (hends : Ends rest)
    (hpoint : ∀ x ∈ rest.head?, x ≠ '.') : takeCivil (t ++ rest) = some (c, rest) := by
  have hdash : ∀ s, expect (· = '-') ('-' :: s) = some s := fun _ => rfl
  have hbetween : ∀ s, expect (fun x => x = 'T' || x = 't' || x = ' ') (mark :: s) = some s := by
    intro s
    rcases hmark with rfl | rfl | rfl <;> rfl
  cases h with
  | fields hdate hclock hseconds =>
      obtain ⟨hyear, hmonth, hday⟩ := hdate
      obtain ⟨hhour, hminute⟩ := hclock
      obtain ⟨hsecond, hfraction⟩ := hseconds
      simp only [takeCivil, List.append_assoc, List.cons_append, Option.bind_eq_bind, Option.bind_some, hdash, hbetween,
        expect_colon, takeExactly_append hyear, takeExactly_append hmonth, takeExactly_append hday,
        takeExactly_append hhour, takeExactly_append hminute, takeExactly_append hsecond,
        hfraction.takeFraction_append hends hpoint]

theorem exists_of_takeCivil (h : takeCivil s = some (c, rest)) :
    ∃ mark t, (mark = 'T' ∨ mark = 't' ∨ mark = ' ') ∧ WritesCivil mark c t ∧ s = t ++ rest := by
  simp only [takeCivil, Option.bind_eq_bind, Option.bind_eq_some_iff, Prod.exists, takeExactly_eq_some_iff,
    expect_eq_some_iff, decide_eq_true_eq, Bool.or_eq_true, or_assoc] at h
  obtain ⟨year, _, ⟨t₁, hyear, rfl⟩, _, ⟨_, rfl, rfl⟩, month, _, ⟨t₂, hmonth, rfl⟩, _, ⟨_, rfl, rfl⟩,
    day, _, ⟨t₃, hday, rfl⟩, _, ⟨mark, hmark, rfl⟩, hour, _, ⟨t₄, hhour, rfl⟩, _, ⟨_, rfl, rfl⟩,
    minute, _, ⟨t₅, hminute, rfl⟩, _, ⟨_, rfl, rfl⟩, second, _, ⟨t₆, hsecond, rfl⟩, nano, _, hread, heq⟩ := h
  cases heq
  obtain ⟨t₇, hfraction, rfl⟩ := exists_of_takeFraction hread
  refine ⟨mark, _, hmark, .fields (.fields hyear hmonth hday) (.fields hhour hminute) (.fields hsecond hfraction), ?_⟩
  simp

/-! ### Offsets -/

/-- An offset begins with a character that ends a fraction of a second. -/
theorem stops_of_offset (h : SpellsOffset offset t) (rest : List Char) :
    Ends (t ++ rest) ∧ ∀ x ∈ (t ++ rest).head?, x ≠ '.' := by
  have hstops : ∀ {x : Char} (s : List Char), x.isDigit = false → x ≠ '.' →
      Ends (x :: s) ∧ ∀ y ∈ (x :: s).head?, y ≠ '.' := by
    intro x s hdigit hpoint
    refine ⟨ends_cons hdigit, ?_⟩
    rintro _ ⟨rfl⟩
    exact hpoint
  cases h with
  | zero hx => rcases hx with rfl | rfl <;> exact hstops _ (by decide) (by decide)
  | east => exact hstops _ (by decide) (by decide)
  | west hx => rcases hx with rfl | rfl <;> exact hstops _ (by decide) (by decide)

theorem takeOffset_append (h : SpellsOffset offset t) (rest : List Char) :
    takeOffset (t ++ rest) = some (offset, rest) := by
  have hsigned : ∀ {x : Char} {hour minute : Nat} {t : List Char}, x = '+' ∨ x = '-' ∨ x = '\u2212' →
      WritesClock hour minute t → hour ≤ 23 → minute ≤ 59 → takeOffset (x :: (t ++ rest)) =
        some (if x = '+' then (3600 * hour + 60 * minute : Int) else -(3600 * hour + 60 * minute), rest) := by
    rintro x hour minute _ hx ⟨hhours, hminutes⟩ hhour hminute
    have hz : ¬ (x = 'Z' ∨ x = 'z') := by rcases hx with rfl | rfl | rfl <;> decide
    rw [takeOffset, if_neg hz, if_pos hx]
    simp only [List.append_assoc, List.cons_append, takeExactly_append hhours, expect_colon,
      takeExactly_append hminutes, Option.bind_eq_bind, Option.bind_some, hhour, hminute, and_self, if_true]
  cases h with
  | zero hx => rcases hx with rfl | rfl <;> rfl
  | east h hhour hminute => exact hsigned (Or.inl rfl) h hhour hminute
  | west hx h hhour hminute =>
      rcases hx with rfl | rfl
      · exact hsigned (Or.inr (Or.inl rfl)) h hhour hminute
      · exact hsigned (Or.inr (Or.inr rfl)) h hhour hminute

theorem exists_of_takeOffset (h : takeOffset s = some (offset, rest)) : ∃ t, SpellsOffset offset t ∧ s = t ++ rest := by
  cases s with
  | nil => cases h
  | cons x s =>
      rw [takeOffset] at h
      split at h
      · rename_i hx
        cases h
        exact ⟨[x], .zero hx, rfl⟩
      · split at h
        · rename_i hx
          simp only [Option.bind_eq_bind, Option.bind_eq_some_iff, Prod.exists, takeExactly_eq_some_iff,
            expect_eq_some_iff, decide_eq_true_eq] at h
          obtain ⟨hour, _, ⟨t, hhours, rfl⟩, _, ⟨_, rfl, rfl⟩, minute, _, ⟨u, hminutes, rfl⟩, h⟩ := h
          have hclock : WritesClock hour minute (t ++ ':' :: u) := .fields hhours hminutes
          split at h
          · rename_i hbounds
            cases h
            rcases hx with rfl | hminus
            · exact ⟨_, .east hclock hbounds.1 hbounds.2, by simp⟩
            · have hplus : x ≠ '+' := by rcases hminus with rfl | rfl <;> decide
              rw [if_neg hplus]
              exact ⟨_, .west hminus hclock hbounds.1 hbounds.2, by simp⟩
          · cases h
        · cases h

/-- The reader of times with an offset takes the texts that spell one. -/
theorem read_eq_some_iff : read s = some m ↔ SpellsOffsetTime m s := by
  constructor
  · intro h
    simp only [read, Option.bind_eq_bind, Option.bind_eq_some_iff, Prod.exists] at h
    obtain ⟨c, _, hcivil, offset, rest, hoffset, hread⟩ := h
    obtain ⟨mark, t, hmark, ht, rfl⟩ := exists_of_takeCivil hcivil
    obtain ⟨u, hu, rfl⟩ := exists_of_takeOffset hoffset
    split at hread
    · rename_i hends
      obtain ⟨rfl, hc⟩ := hends
      cases hread
      rw [List.append_nil]
      exact .fields hmark ht hc hu
    · cases hread
  · rintro ⟨hmark, ht, hc, hu⟩
    obtain ⟨hends, hpoint⟩ := stops_of_offset hu []
    have hoffset := takeOffset_append hu []
    rw [List.append_nil] at hends hpoint hoffset
    simp only [read, takeCivil_append ht hmark hends hpoint, hoffset, Option.bind_eq_bind, Option.bind_some, hc,
      and_self, if_true]

end OffsetTime

end AlbumBrowser.Calendar
