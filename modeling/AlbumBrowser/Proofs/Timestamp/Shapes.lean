import AlbumBrowser.Proofs.Calendar.OffsetTimes
import AlbumBrowser.Timestamp

/-!
The texts that spell a timestamp. Apart from times with an offset, which are in full width, the shapes are read
leniently: numbers may be short, a year may have a sign, white space may stand in front of any number, and where white
space stands between a date and a time there need be none, if the day cannot be read on into the hour. A text is
read by one of the readers just if it spells a timestamp, and then as the timestamp that it spells.
-/

namespace AlbumBrowser

open Calendar Text

namespace Timestamp

/-- A date and what follows it: a `T` stands between the two, or nothing does. White space in front of what follows
belongs to that. -/
inductive Joins : Piece → List Char → List Char → List Char → Prop
  | mark (t u : List Char) : Joins (.text 'T') t u (t ++ 'T' :: u)
  | gap {t u : List Char} (h : Closes t u) : Joins .gap t u (t ++ u)

/-- A text that is read as a timestamp. -/
inductive Spells : Timestamp → List Char → Prop
  | offset {m : Moment} {s : List Char} (h : SpellsOffsetTime m s) : Spells (.instant m) s
  | date {d : Date} {s : List Char} (h : SpellsDate d s) (hd : d.Valid) : Spells (.instant ⟨86400 * d.dayNumber, 0⟩) s
  | zero {d : Date} {hour minute : Nat} {separator : Piece} {s t u : List Char} (ht : SpellsDate d t)
      (hu : SpellsClock hour minute u) (hs : Joins separator t (u ++ ['Z']) s)
      (hc : (Civil.mk d hour minute 0 0).Valid) : Spells (.instant (Civil.mk d hour minute 0 0).moment) s
  | minutes {d : Date} {hour minute : Nat} {separator : Piece} {s t u : List Char} (ht : SpellsDate d t)
      (hu : SpellsClock hour minute u) (hs : Joins separator t u s)
      (hc : (Civil.mk d hour minute 0 0).Valid) : Spells (.wallClock (Civil.mk d hour minute 0 0).moment) s
  | seconds {d : Date} {hour minute second nano : Nat} {separator : Piece} {s t u v : List Char} (ht : SpellsDate d t)
      (hu : SpellsClock hour minute u) (hv : SpellsSeconds second nano v) (hs : Joins separator t (u ++ ':' :: v) s)
      (hc : (Civil.mk d hour minute second nano).Valid) :
      Spells (.wallClock (Civil.mk d hour minute second nano).moment) s

/-! ### Layouts -/

/-- What may stand between a date and a time of day. -/
def separators : List Piece := [.text 'T', .gap]

variable {separator : Piece} {time : Layout} {c : Civil} {s : List Char} {x : Timestamp}

theorem mem_instantLayouts {layout : Layout} : layout ∈ instantLayouts ↔
    layout = Layout.date ∨ ∃ separator ∈ separators, layout = dateAnd separator (Layout.clock ++ [.text 'Z']) := by
  simp [instantLayouts, separators]

theorem mem_wallClockLayouts {layout : Layout} : layout ∈ wallClockLayouts ↔
    ∃ separator ∈ separators, layout = dateAnd separator Layout.clock ∨
      layout = dateAnd separator Layout.clockToFraction := by
  simp only [wallClockLayouts, separators, List.mem_cons, List.not_mem_nil, or_false, exists_eq_or_imp,
    exists_eq_left]
  tauto

/-- White space in front of an hour is skipped with it. -/
theorem gap_hour_readFrom : Layout.readFrom (.gap :: .field .hour :: time) c s =
    Layout.readFrom (.field .hour :: time) c s := by
  simp only [Layout.readFrom, Piece.read, Field.read, Option.bind_some, trimStart_idem]

theorem Joins.mem_separators {t u : List Char} (h : Joins separator t u s) : separator ∈ separators := by
  cases h with
  | mark => exact List.mem_cons_self
  | gap => exact List.mem_cons_of_mem _ List.mem_cons_self

/-- A date is followed by a time that is read from what the separator leaves. -/
theorem dateAnd_read_eq_some_iff (hseparator : separator ∈ separators) :
    (dateAnd separator (.field .hour :: time)).read s = some c ↔
      (∃ d t u, SpellsDate d t ∧ Joins separator t u s ∧
        Layout.readFrom (.field .hour :: time) { Civil.zero with date := d } u = some (c, [])) ∧ c.Valid := by
  rw [Layout.read_eq_some_iff, dateAnd, Layout.readFrom_append, Option.bind_eq_some_iff]
  refine and_congr_left fun _ => ?_
  -- What is behind the date is left as it is by a gap, for the hour skips the same white space.
  simp only [separators, List.mem_cons, List.not_mem_nil, or_false] at hseparator
  constructor
  · rintro ⟨⟨c₁, rest⟩, hdate, hrest⟩
    obtain ⟨d, t, hspells, hcloses, rfl, rfl⟩ := Layout.exists_of_date hdate
    rcases hseparator with rfl | rfl
    · obtain ⟨u, rfl, htime⟩ := Layout.exists_of_text hrest
      exact ⟨d, t, u, hspells, .mark t u, htime⟩
    · exact ⟨d, t, rest, hspells, .gap hcloses, gap_hour_readFrom ▸ hrest⟩
  · rintro ⟨d, t, u, hspells, hjoins, htime⟩
    cases hjoins with
    | mark =>
        refine ⟨_, Layout.date_readFrom_append hspells (Or.inl (ends_cons (by decide))), ?_⟩
        simpa [Layout.readFrom, Piece.read] using htime
    | gap hcloses =>
        exact ⟨_, Layout.date_readFrom_append hspells hcloses, gap_hour_readFrom.trans htime⟩

/-! ### Readers -/

/-- The moment of a date alone is its midnight. -/
theorem midnight (d : Date) : ({ Civil.zero with date := d } : Civil).moment = ⟨86400 * d.dayNumber, 0⟩ :=
  congrArg (Moment.mk · 0) (Int.add_zero _)

theorem exists_reader_iff : (∃ reader ∈ readers, reader s = some x) ↔
    (∃ m, OffsetTime.read s = some m ∧ instant m = x) ∨
    (∃ layout ∈ instantLayouts, ∃ c, layout.read s = some c ∧ instant c.moment = x) ∨
    ∃ layout ∈ wallClockLayouts, ∃ c, layout.read s = some c ∧ wallClock c.moment = x := by
  simp only [readers, List.cons_append, List.exists_mem_cons_iff, List.mem_append, List.mem_map, or_and_right,
    exists_or, exists_exists_and_eq_and, Option.map_eq_some_iff]

theorem Spells.exists_reader (h : Spells x s) : ∃ reader ∈ readers, reader s = some x := by
  rw [exists_reader_iff]
  have hmark : 'Z'.isDigit = false := by decide
  cases h with
  | offset h => exact Or.inl ⟨_, OffsetTime.read_eq_some_iff.mpr h, rfl⟩
  | date h hd =>
      have hread := Layout.date_read_eq_some_iff.mpr ⟨_, h, hd, rfl⟩
      exact Or.inr (Or.inl ⟨_, mem_instantLayouts.mpr (Or.inl rfl), _, hread, congrArg _ (midnight _)⟩)
  | @zero d _ _ _ _ _ _ ht hu hs hc =>
      have htime := (Layout.clock_text_readFrom_eq_some_iff (c := { Civil.zero with date := d }) hmark).mpr
        ⟨_, _, _, hu, rfl, rfl⟩
      have hread := (dateAnd_read_eq_some_iff hs.mem_separators).mpr ⟨⟨_, _, _, ht, hs, htime⟩, hc⟩
      exact Or.inr (Or.inl ⟨_, mem_instantLayouts.mpr (Or.inr ⟨_, hs.mem_separators, rfl⟩), _, hread, rfl⟩)
  | @minutes d _ _ _ _ _ _ ht hu hs hc =>
      have htime := (Layout.clock_readFrom_eq_some_iff (c := { Civil.zero with date := d })).mpr ⟨_, _, hu, rfl⟩
      have hread := (dateAnd_read_eq_some_iff hs.mem_separators).mpr ⟨⟨_, _, _, ht, hs, htime⟩, hc⟩
      exact Or.inr (Or.inr ⟨_, mem_wallClockLayouts.mpr ⟨_, hs.mem_separators, Or.inl rfl⟩, _, hread, rfl⟩)
  | @seconds d _ _ _ _ _ _ _ _ _ ht hu hv hs hc =>
      have htime := (Layout.clockToFraction_readFrom_eq_some_iff (c := { Civil.zero with date := d })).mpr
        ⟨_, _, _, _, _, _, hu, hv, rfl, rfl⟩
      have hread := (dateAnd_read_eq_some_iff hs.mem_separators).mpr ⟨⟨_, _, _, ht, hs, htime⟩, hc⟩
      exact Or.inr (Or.inr ⟨_, mem_wallClockLayouts.mpr ⟨_, hs.mem_separators, Or.inr rfl⟩, _, hread, rfl⟩)

theorem spells_of_reader (h : ∃ reader ∈ readers, reader s = some x) : Spells x s := by
  have hmark : 'Z'.isDigit = false := by decide
  rcases exists_reader_iff.mp h with
    ⟨m, hread, rfl⟩ | ⟨layout, hlayout, c, hread, rfl⟩ | ⟨layout, hlayout, c, hread, rfl⟩
  · exact .offset (OffsetTime.read_eq_some_iff.mp hread)
  · rcases mem_instantLayouts.mp hlayout with rfl | ⟨separator, hseparator, rfl⟩
    · obtain ⟨d, hdate, hd, rfl⟩ := Layout.date_read_eq_some_iff.mp hread
      exact midnight d ▸ .date hdate hd
    · obtain ⟨⟨d, t, u, ht, hs, htime⟩, hc⟩ := (dateAnd_read_eq_some_iff hseparator).mp hread
      obtain ⟨hour, minute, v, hv, rfl, rfl⟩ := (Layout.clock_text_readFrom_eq_some_iff hmark).mp htime
      exact .zero ht hv hs hc
  · obtain ⟨separator, hseparator, rfl | rfl⟩ := mem_wallClockLayouts.mp hlayout
    · obtain ⟨⟨d, t, u, ht, hs, htime⟩, hc⟩ := (dateAnd_read_eq_some_iff hseparator).mp hread
      obtain ⟨hour, minute, hu, rfl⟩ := Layout.clock_readFrom_eq_some_iff.mp htime
      exact .minutes ht hu hs hc
    · obtain ⟨⟨d, t, u, ht, hs, htime⟩, hc⟩ := (dateAnd_read_eq_some_iff hseparator).mp hread
      obtain ⟨hour, minute, second, nano, v, v', hv, hv', rfl, rfl⟩ :=
        Layout.clockToFraction_readFrom_eq_some_iff.mp htime
      exact .seconds ht hv hv' hs hc

/-- The readers together read the texts that spell a timestamp. -/
theorem spells_iff : Spells x s ↔ ∃ reader ∈ readers, reader s = some x := ⟨Spells.exists_reader, spells_of_reader⟩

end Timestamp

end AlbumBrowser
