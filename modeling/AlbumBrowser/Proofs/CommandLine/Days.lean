import AlbumBrowser.Proofs.Calendar.Dates
import AlbumBrowser.Proofs.CommandLine.Filtering
import AlbumBrowser.Proofs.Timestamp.Keys

/-!
Days as options. A day may be typed in many ways, with short numbers, a sign or white space, and is put into its full
width; albums are then compared with it as texts. This is exact: a text that is accepted spells one date, different
dates have different texts in full width, and neither the text of an absent timestamp nor that of an unreadable
one is the text of a date. So the day of an album is the only one that finds it.
-/

namespace AlbumBrowser

open Calendar Text

/-- A date in full width. -/
def Calendar.Date.key (d : Date) : String := String.ofList (Layout.date.write { Civil.zero with date := d })

theorem Calendar.Layout.valid_of_date {d : Date} (hd : d.Valid) : Civil.Valid { Civil.zero with date := d } :=
  ⟨hd, Nat.zero_le _, Nat.zero_le _, Nat.zero_le _⟩

/-- The day of an album on the viewer's clock. What a clock shows has its own day, and a timestamp that is absent or
unreadable has none. -/
def Album.day? (zone : ViewerZone) (a : Album) : Option Date :=
  match a.timestamp with
  | some (.instant m) => some (m.shift (zone.zoneAt m).offset).date
  | some (.wallClock m) => some m.date
  | _ => none

namespace CommandLine

variable {text key : String} {d e : Date}

/-- The days that are accepted: the texts that spell a date of the calendar in a year that is kept. -/
theorem date_eq_ok_iff : date text = .ok key ↔ ∃ d, SpellsDate d text.toList ∧ d.Valid ∧ key = d.key := by
  constructor
  · intro h
    unfold date at h
    split at h
    · rename_i written hnormal
      cases h
      obtain ⟨c, hread, rfl⟩ := Option.map_eq_some_iff.mp hnormal
      obtain ⟨d, hspells, hd, rfl⟩ := Layout.date_read_eq_some_iff.mp hread
      exact ⟨d, hspells, hd, rfl⟩
    · cases h
  · rintro ⟨d, hspells, hd, rfl⟩
    rw [date, normalize?, Layout.date_read_eq_some_iff.mpr ⟨d, hspells, hd, rfl⟩]
    rfl

theorem date_key (hd : d.Valid) : date d.key = .ok d.key := date_write (Layout.valid_of_date hd)

/-- The text of an absent timestamp is not that of a date, nor is the text of an unreadable one. -/
theorem key_ne (hd : d.Valid) : d.key ≠ "" ∧ d.key ≠ Zone.unreadableText := by
  have haccepted := date_key hd
  refine ⟨?_, ?_⟩
  · intro heq
    rw [heq, date_empty] at haccepted
    cases haccepted
  · intro heq
    rw [heq, date_unreadableText] at haccepted
    cases haccepted

theorem key_injective (hd : d.Valid) (he : e.Valid) (h : d.key = e.key) : d = e := by
  have hread := Layout.date_read_write (Layout.valid_of_date hd)
  rw [String.ofList_injective h, Layout.date_read_write (Layout.valid_of_date he)] at hread
  cases hread
  rfl

end CommandLine

namespace Album

open CommandLine

variable {zone : ViewerZone} {a : Album} {d : Date}

section Placed

variable (hplaced : ¬ a.Beyond zone) (hkept : ∀ m, a.timestamp = some (.wallClock m) → m.InCalendar)

include hplaced hkept

theorem dateKey_of_day? (hday : a.day? zone = some d) : d.Valid ∧ zone.dateKey a.timestamp = some d.key := by
  rcases a with ⟨id, _ | (m | m | raw), description, folders, images⟩
  · cases hday
  · cases hday
    have hinside : (m.shift (zone.zoneAt m).offset).InCalendar := Decidable.not_not.mp hplaced
    exact ⟨Moment.valid_date hinside, ViewerZone.render_instant rfl hinside Layout.date⟩
  · cases hday
    exact ⟨Moment.valid_date (hkept m rfl), rfl⟩
  · cases hday

theorem matchesDate_key (hd : d.Valid) : a.matchesDate zone d.key = some (decide (a.day? zone = some d)) := by
  obtain ⟨hne, hreadable⟩ := key_ne hd
  rw [matchesDate, if_neg hne]
  cases hday : a.day? zone with
  | some e =>
      obtain ⟨he, hkey⟩ := dateKey_of_day? hplaced hkept hday
      rw [hkey, Option.map_some]
      congr 1
      rw [decide_eq_decide, Option.some.injEq]
      exact ⟨key_injective he hd, congrArg Date.key⟩
  | none =>
      rcases a with ⟨id, _ | (m | m | raw), description, folders, images⟩
      · exact congrArg some (decide_eq_false hne.symm)
      · cases hday
      · cases hday
      · exact congrArg some (decide_eq_false hreadable.symm)

end Placed

/-- A day that is accepted is put into its full width, which is not changed by doing so again, and finds just the albums
of the one date that it spells. So an album with a readable timestamp is found by exactly one day in full width, and
one without by none. -/
theorem found_by_day (hplaced : ¬ a.Beyond zone)
    (hkept : ∀ m, a.timestamp = some (.wallClock m) → m.InCalendar) :
    (∀ text key, date text = .ok key → date key = .ok key ∧
      ∃ d, SpellsDate d text.toList ∧ (∀ e, SpellsDate e text.toList → e = d) ∧ d.Valid ∧
        a.matchesDate zone key = some (decide (a.day? zone = some d))) ∧
    (a.day? zone ≠ none → ∃! key, (∃ text, date text = .ok key) ∧ a.matchesDate zone key = some true) ∧
    (a.day? zone = none → ∀ text key, date text = .ok key → a.matchesDate zone key = some false) := by
  refine ⟨?_, ?_, ?_⟩
  · intro text key h
    obtain ⟨d, hspells, hd, rfl⟩ := date_eq_ok_iff.mp h
    exact ⟨date_key hd, d, hspells, fun e he => hspells.unique he, hd, matchesDate_key hplaced hkept hd⟩
  · intro hday
    obtain ⟨d, hd⟩ := Option.ne_none_iff_exists'.mp hday
    have hvalid := (dateKey_of_day? hplaced hkept hd).1
    refine ⟨d.key, ⟨⟨d.key, date_key hvalid⟩, ?_⟩, ?_⟩
    · rw [matchesDate_key hplaced hkept hvalid, hd, decide_eq_true rfl]
    · rintro key ⟨⟨text, h⟩, hfound⟩
      obtain ⟨e, -, he, rfl⟩ := date_eq_ok_iff.mp h
      rw [matchesDate_key hplaced hkept he, hd, Option.some.injEq, decide_eq_true_iff] at hfound
      rw [Option.some.inj hfound]
  · intro hday text key h
    obtain ⟨d, -, hd, rfl⟩ := date_eq_ok_iff.mp h
    rw [matchesDate_key hplaced hkept hd, hday]
    rfl

/-- New Year's Day of the year before the year 0, typed with short numbers. It finds an album by what the zone's clock
shows, and one with a clock of its own. -/
theorem found_by_day_before_first_year : ∃ (zone : Zone) (a b : Album) (key : String) (d : Date),
    zone.offset = 19800 ∧ a.timestamp = some (.instant ⟨-62198769600, 0⟩) ∧
    b.timestamp = some (.wallClock ⟨-62198755200, 0⟩) ∧
    ¬ a.Beyond zone ∧ ¬ b.Beyond zone ∧ (∀ m, b.timestamp = some (.wallClock m) → m.InCalendar) ∧
    date " -1- 1-1" = .ok key ∧ key = "-0001-01-01" ∧ date key = .ok key ∧
    SpellsDate d " -1- 1-1".toList ∧ a.day? zone = some d ∧ b.day? zone = some d ∧
    a.matchesDate zone key = some true ∧ b.matchesDate zone key = some true := by
  let zone : Zone := { offset := 19800 }
  let a : Album := ⟨"1", some (.instant ⟨-62198769600, 0⟩), none, [], []⟩
  let b : Album := ⟨"2", some (.wallClock ⟨-62198755200, 0⟩), none, [], []⟩
  have hplaced : ¬ a.Beyond zone := by decide
  have hplaced' : ¬ b.Beyond zone := by decide
  have hkept : ∀ m, b.timestamp = some (.wallClock m) → m.InCalendar := by
    intro m hm
    cases hm
    decide
  have hdate : date " -1- 1-1" = .ok "-0001-01-01" := by decide +kernel
  have ha : a.matchesDate zone "-0001-01-01" = some true := by decide +kernel
  have hb : b.matchesDate zone "-0001-01-01" = some true := by decide +kernel
  obtain ⟨hagain, d, hspells, -, -, hfound⟩ := (found_by_day hplaced fun m hm => by cases hm).1 _ _ hdate
  obtain ⟨-, e, hspells', -, -, hfound'⟩ := (found_by_day hplaced' hkept).1 _ _ hdate
  cases hspells.unique hspells'
  rw [ha, Option.some.injEq, eq_comm, decide_eq_true_iff] at hfound
  rw [hb, Option.some.injEq, eq_comm, decide_eq_true_iff] at hfound'
  exact ⟨zone, a, b, "-0001-01-01", d, rfl, rfl, rfl, hplaced, hplaced', hkept, hdate, rfl, hagain, hspells, hfound,
    hfound', ha, hb⟩

end Album

end AlbumBrowser
