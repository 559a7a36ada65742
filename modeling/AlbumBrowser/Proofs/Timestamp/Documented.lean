import AlbumBrowser.Calendar.DayNumber
import AlbumBrowser.Proofs.Timestamp.Readers

/-!
The shapes of timestamps that are documented. In these every number has its full width, the year has four digits and
a character stands between the date and the time. Each of them is among the texts that spell a timestamp, so it is
read as the timestamp that it names, whatever white space stands around it. But not every text that is read has
a documented shape.
-/

namespace AlbumBrowser

open Calendar Text

namespace Calendar

variable {hour minute nano : Nat} {c : Civil} {t : List Char}

/-- White space in front of a time of day belongs to it. -/
theorem SpellsClock.gap {w : List Char} (hw : IsGap w) (h : SpellsClock hour minute t) :
    SpellsClock hour minute (w ++ t) := by
  obtain ⟨hw', hhour, hw'', hminute⟩ := h
  rw [← List.append_assoc]
  exact .fields (List.forall_mem_append.mpr ⟨hw, hw'⟩) hhour hw'' hminute

theorem SpellsFraction.lt (h : SpellsFraction nano t) : nano < 1000000000 := by
  cases h with
  | none => decide
  | @digits run hdigits hne =>
      rw [Nat.div_lt_iff_lt_mul (Nat.pow_pos (by decide)), Nat.mul_comm]
      exact Nat.mul_lt_mul_of_pos_left (ofDigits_lt hdigits) (by decide)

/-- A date and time in full width is kept as exactly its fields. -/
theorem WritesCivil.civil_moment {mark : Char} (h : WritesCivil mark c t) (hc : c.Valid) : c.moment.civil = c := by
  obtain ⟨-, -, -, hfraction⟩ := h
  exact Moment.civil_moment hc hfraction.lt

end Calendar

namespace Timestamp

/-- The documented shapes of a text and the timestamps that they name. -/
inductive Documented : Timestamp → List Char → Prop
  /-- `YYYY-MM-DD`, as the midnight at the zero meridian -/
  | date {d : Date} {t : List Char} (ht : WritesDate d t) (hd : d.Valid) :
      Documented (.instant ⟨86400 * d.dayNumber, 0⟩) t
  /-- `YYYY-MM-DDTHH:MMZ`, or with a space in place of the `T` -/
  | zero {mark : Char} {d : Date} {hour minute : Nat} {t u : List Char} (hmark : mark = 'T' ∨ mark = ' ')
      (ht : WritesDate d t) (hu : WritesClock hour minute u) (hc : (Civil.mk d hour minute 0 0).Valid) :
      Documented (.instant (Civil.mk d hour minute 0 0).moment) (t ++ mark :: (u ++ ['Z']))
  /-- `YYYY-MM-DDTHH:MM:SS` with or without a fraction, and `Z`, `+HH:MM` or `-HH:MM`; letters may be in lower
  case, and a space may stand in place of the `T` -/
  | offset {mark : Char} {c : Civil} {offset : Int} {t u : List Char} (hmark : mark = 'T' ∨ mark = 't' ∨ mark = ' ')
      (ht : WritesCivil mark c t) (hc : c.Valid) (hu : SpellsOffset offset u) (hminus : '\u2212' ∉ u) :
      Documented (.instant (c.moment.shift (-offset))) (t ++ u)
  /-- `YYYY-MM-DDTHH:MM`, or with a space -/
  | minutes {mark : Char} {d : Date} {hour minute : Nat} {t u : List Char} (hmark : mark = 'T' ∨ mark = ' ')
      (ht : WritesDate d t) (hu : WritesClock hour minute u) (hc : (Civil.mk d hour minute 0 0).Valid) :
      Documented (.wallClock (Civil.mk d hour minute 0 0).moment) (t ++ mark :: u)
  /-- `YYYY-MM-DDTHH:MM:SS` with or without a fraction, or with a space -/
  | seconds {mark : Char} {c : Civil} {t : List Char} (hmark : mark = 'T' ∨ mark = ' ') (ht : WritesCivil mark c t)
      (hc : c.Valid) : Documented (.wallClock c.moment) t

variable {x : Timestamp} {s t u w w' : List Char} {d : Date} {hour minute : Nat} {mark : Char}

/-- A documented text is a date in full width, which a character sets apart from the time, if there is one. -/
theorem Documented.exists_date (h : Documented x s) : ∃ d t rest, WritesDate d t ∧ s = t ++ rest ∧
    (rest = [] ∨ ∃ mark v, (mark = 'T' ∨ mark = 't' ∨ mark = ' ') ∧ IsVisible v ∧ v ≠ [] ∧ rest = mark :: v) := by
  have hcolon : ∀ {u v : List Char}, IsVisible u → IsVisible v → IsVisible (u ++ ':' :: v) := fun hu hv =>
    List.forall_mem_append.mpr ⟨hu, List.forall_mem_cons.mpr ⟨by decide, hv⟩⟩
  cases h with
  | date ht => exact ⟨_, s, [], ht, (List.append_nil s).symm, Or.inl rfl⟩
  | @zero mark d hour minute t u hmark ht hu =>
      have hv : IsVisible (u ++ ['Z']) :=
        List.forall_mem_append.mpr ⟨hu.isVisible, List.forall_mem_singleton.mpr (by decide)⟩
      exact ⟨d, t, _, ht, rfl, Or.inr ⟨mark, _, hmark.imp_right Or.inr, hv, by simp, rfl⟩⟩
  | @offset mark c offset t u hmark ht _ hu =>
      obtain ⟨hdate, hclock, hseconds⟩ := ht
      have hv := List.forall_mem_append.mpr ⟨hcolon hclock.isVisible hseconds.isVisible, hu.isVisible⟩
      exact ⟨_, _, _, hdate, List.append_assoc .., Or.inr ⟨mark, _, hmark, hv, by simp, rfl⟩⟩
  | @minutes mark d hour minute t u hmark ht hu =>
      have hne : u ≠ [] := by
        obtain ⟨-, -⟩ := hu
        simp
      exact ⟨d, t, _, ht, rfl, Or.inr ⟨mark, u, hmark.imp_right Or.inr, hu.isVisible, hne, rfl⟩⟩
  | @seconds mark c _ hmark ht =>
      obtain ⟨hdate, hclock, hseconds⟩ := ht
      have hv := hcolon hclock.isVisible hseconds.isVisible
      exact ⟨_, _, _, hdate, rfl, Or.inr ⟨mark, _, hmark.imp_right Or.inr, hv, by simp, rfl⟩⟩

theorem Documented.isTrimmed (h : Documented x s) : IsTrimmed s := by
  obtain ⟨d, t, rest, ht, rfl, rfl | ⟨mark, v, -, hv, hne, rfl⟩⟩ := h.exists_date
  · rw [List.append_nil]
    exact ht.isVisible.isTrimmed
  · have hdate : t ≠ [] := by
      rintro rfl
      cases ht.length_eq
    exact isTrimmed_append ht.isVisible hv hdate hne [mark]

/-- A date in full width joins what follows a `T`, and what follows a space with the space. -/
theorem exists_joins (hmark : mark = 'T' ∨ mark = ' ') (ht : WritesDate d t) (hu : WritesClock hour minute u)
    (v : List Char) :
    ∃ separator u', SpellsClock hour minute u' ∧ Joins separator t (u' ++ v) (t ++ mark :: (u ++ v)) := by
  rcases hmark with rfl | rfl
  · exact ⟨_, u, hu.spells, .mark t _⟩
  · have hspace : IsGap [' '] := List.forall_mem_singleton.mpr (by decide)
    exact ⟨_, [' '] ++ u, hu.spells.gap hspace, .gap (ht.closes _)⟩

theorem Documented.spells (h : Documented x s) : Spells x s := by
  cases h with
  | date ht hd => exact .date ht.spells hd
  | zero hmark ht hu hc =>
      obtain ⟨separator, u', hu', hs⟩ := exists_joins hmark ht hu ['Z']
      exact .zero ht.spells hu' hs hc
  | offset hmark ht hc hu => exact .offset (.fields hmark ht hc hu)
  | @minutes mark d hour minute t u hmark ht hu hc =>
      obtain ⟨separator, u', hu', hs⟩ := exists_joins hmark ht hu []
      rw [List.append_nil, List.append_nil] at hs
      exact .minutes ht.spells hu' hs hc
  | @seconds mark c _ hmark ht hc =>
      obtain ⟨hdate, hclock, hseconds⟩ := ht
      obtain ⟨separator, u', hu', hs⟩ := exists_joins hmark hdate hclock (':' :: _)
      exact .seconds hdate.spells hu' hseconds.spells hs hc

theorem parse_of_documented (h : Documented x s) (hw : IsGap w) (hw' : IsGap w') :
    parse (String.ofList (w ++ (s ++ w'))) = some x := by
  refine parse_eq_some_iff.mpr (Or.inl ?_)
  rw [String.toList_ofList, trim_append hw hw' h.isTrimmed]
  exact h.spells

/-- Every documented text is read as the timestamp that it names, with any white space around it. With the mark `Z`
missing seconds are zero. A bare date is the first second of its day, and without an offset the clock shows exactly
the fields that are written. White space alone, and only that, is no timestamp. -/
theorem parse_documented :
    (∀ x s w w', Documented x s → IsGap w → IsGap w' → parse (String.ofList (w ++ (s ++ w'))) = some x) ∧
    (∀ d hour minute mark t u, mark = 'T' ∨ mark = ' ' → WritesDate d t → WritesClock hour minute u →
      (Civil.mk d hour minute 0 0).Valid → ∃ m, parse (String.ofList (t ++ mark :: (u ++ ['Z']))) = some (.instant m) ∧
        parse (String.ofList (t ++ 'T' :: (u ++ [':', '0', '0', 'Z']))) = some (.instant m)) ∧
    (∀ d : Date, d.Valid → (Moment.mk (86400 * d.dayNumber) 0).civil = ⟨d, 0, 0, 0, 0⟩) ∧
    (∀ mark c t, WritesCivil mark c t → c.Valid → c.moment.civil = c) ∧
    ∀ raw, parse raw = none ↔ IsGap raw.toList := by
  have hplain : ∀ {x s}, Documented x s → parse (String.ofList s) = some x := by
    intro x s h
    have hparse := parse_of_documented h isGap_nil isGap_nil
    rwa [List.nil_append, List.append_nil] at hparse
  have hmidnight : ∀ d : Date, d.Valid → (Moment.mk (86400 * d.dayNumber) 0).civil = ⟨d, 0, 0, 0, 0⟩ := by
    intro d hd
    rw [← midnight]
    exact Moment.civil_moment ⟨hd, Nat.zero_le _, Nat.zero_le _, Nat.zero_le _⟩ (Nat.succ_pos _)
  refine ⟨fun x s w w' h hw hw' => parse_of_documented h hw hw', ?_, hmidnight,
    fun mark c t h hc => h.civil_moment hc, fun raw => parse_eq_none_iff⟩
  intro d hour minute mark t u hmark ht hu hc
  have hseconds : WritesSeconds 0 0 (['0', '0'] ++ []) := .fields (by decide) .none
  have hfull := Documented.offset (Or.inl rfl) (.fields ht hu hseconds) hc (.zero (Or.inl rfl)) (by decide)
  refine ⟨_, hplain (.zero hmark ht hu hc), ?_⟩
  have hparse := hplain hfull
  rw [List.append_assoc, List.cons_append, List.append_assoc, List.cons_append] at hparse
  rw [show (Civil.mk d hour minute 0 0).moment.shift (-0) = (Civil.mk d hour minute 0 0).moment by
    rw [Moment.shift, Int.neg_zero, Int.add_zero]] at hparse
  exact hparse

/-- A leap second west of the zero meridian, with a digit past the ninth and with white space around it, and a leap day
that a space sets apart from its time. -/
theorem parse_documented_in_leap_second :
    parse "\t2023-12-31 23:59:60.1234567891-00:30\u00a0" = some (.instant ⟨1704068999, 1123456789⟩) ∧
    (∃ m, parse "2024-02-29 23:59Z" = some (.instant m) ∧ parse "2024-02-29T23:59:00Z" = some (.instant m)) ∧
    parse "2024-02-29T23:59:07.5" = some (.wallClock ⟨1709251147, 500000000⟩) ∧
    (Moment.mk 1709251147 500000000).civil = ⟨⟨2024, 2, 29⟩, 23, 59, 7, 500000000⟩ ∧
    parse "\u3000\n" = none := by
  obtain ⟨hshapes, hzero, -, hfields, hblank⟩ := parse_documented
  have hlast : WritesDate ⟨2023, 12, 31⟩ ("2023".toList ++ '-' :: ("12".toList ++ '-' :: "31".toList)) :=
    .fields (by decide) (by decide) (by decide)
  have hleap : WritesDate ⟨2024, 2, 29⟩ ("2024".toList ++ '-' :: ("02".toList ++ '-' :: "29".toList)) :=
    .fields (by decide) (by decide) (by decide)
  have hclock : WritesClock 23 59 ("23".toList ++ ':' :: "59".toList) := .fields (by decide) (by decide)
  have hsixty : WritesSeconds 60 123456789 ("60".toList ++ '.' :: "1234567891".toList) :=
    .fields (by decide) (.of_eq (by decide) (by decide) (by decide))
  have hseven : WritesSeconds 7 500000000 ("07".toList ++ '.' :: "5".toList) :=
    .fields (by decide) (.of_eq (by decide) (by decide) (by decide))
  have hwest : SpellsOffset (-(3600 * 0 + 60 * 30)) ('-' :: ("00".toList ++ ':' :: "30".toList)) :=
    .west (Or.inl rfl) (.fields (by decide) (by decide)) (by decide) (by decide)
  have hoffset := Documented.offset (Or.inr (Or.inr rfl)) (.fields hlast hclock hsixty) (by decide) hwest (by decide)
  rw [show (Civil.mk ⟨2023, 12, 31⟩ 23 59 60 123456789).moment.shift (-(-(3600 * 0 + 60 * 30))) =
    ⟨1704068999, 1123456789⟩ by decide] at hoffset
  have hwall := Documented.seconds (Or.inl rfl) (.fields hleap hclock hseven) (by decide)
  have hmoment : (Civil.mk ⟨2024, 2, 29⟩ 23 59 7 500000000).moment = ⟨1709251147, 500000000⟩ := by decide
  have hcivil := hfields 'T' _ _ (.fields hleap hclock hseven) (by decide)
  obtain ⟨m, hspace, hmark⟩ := hzero _ _ _ ' ' _ _ (Or.inr rfl) hleap hclock (by decide)
  rw [hmoment] at hwall hcivil
  refine ⟨?_, ⟨m, ?_, ?_⟩, ?_, hcivil, (hblank _).mpr (by decide)⟩
  · exact (congrArg parse (by decide)).trans (hshapes _ _ ['\t'] ['\u00a0'] hoffset (by decide) (by decide))
  · exact (congrArg parse (by decide)).trans hspace
  · exact (congrArg parse (by decide)).trans hmark
  · exact (congrArg parse (by decide)).trans (hshapes _ _ [] [] hwall (by decide) (by decide))

/-! ### What is read beyond the documented shapes -/

/-- Just the texts that spell a timestamp are read as a point of time or as what a clock shows, between the white space
around them, and all other texts but the blank ones are kept as unreadable. The documented shapes are among those
that are read. -/
theorem reads_spelled_shapes (raw : String) :
    (∀ m, parse raw = some (.instant m) ↔ Spells (.instant m) (trim raw.toList)) ∧
    (∀ m, parse raw = some (.wallClock m) ↔ Spells (.wallClock m) (trim raw.toList)) ∧
    (∀ text, parse raw = some (.unreadable text) ↔
      ¬ IsGap raw.toList ∧ (∀ x, ¬ Spells x (trim raw.toList)) ∧ text = String.ofList (trim raw.toList)) ∧
    ∀ x s, Documented x s → Spells x s := by
  have hreadable : ∀ {x}, (∀ text, x ≠ .unreadable text) → (parse raw = some x ↔ Spells x (trim raw.toList)) :=
    fun h => parse_eq_some_iff.trans (or_iff_left fun hunreadable => h _ hunreadable.2)
  refine ⟨fun m => hreadable (fun _ h => (by cases h)), fun m => hreadable (fun _ h => (by cases h)), fun text => ?_,
    fun x s h => h.spells⟩
  have hunreadable : ¬ Spells (.unreadable text) (trim raw.toList) := fun h => (by cases h)
  rw [parse_eq_some_iff, or_iff_right hunreadable, and_assoc, Timestamp.unreadable.injEq]

/-- A date that runs into an hour has none of the documented shapes, but is read as the time of a clock. -/
theorem reads_glued_hour : parse "2024-03-0514:07" = some (.wallClock ⟨1709647620, 0⟩) ∧
    ∀ x, ¬ Documented x (trim "2024-03-0514:07".toList) := by
  refine ⟨by decide +kernel, fun x h => ?_⟩
  -- Behind the ten characters of the date there is a digit, where there should be nothing or a separator.
  have htrim : trim "2024-03-0514:07".toList = "2024-03-05".toList ++ "14:07".toList := by decide
  rw [htrim] at h
  obtain ⟨d, t, rest, ht, hsplit, hrest⟩ := h.exists_date
  obtain ⟨-, hglued⟩ := List.append_inj hsplit ht.length_eq.symm
  rcases hrest with rfl | ⟨mark, v, hmark, -, -, rfl⟩
  · cases hglued
  · cases hglued
    revert hmark
    decide

end Timestamp

end AlbumBrowser
