import AlbumBrowser.Calendar.DayNumber
import AlbumBrowser.Proofs.Timestamp.Readers
import AlbumBrowser.Zone

/-!
Keys name what a clock shows. A date key is itself the text of a timestamp: being a bare date, it is read as the
midnight that begins the day. With the clock key, which gives hours and minutes, the second that a clock shows is
known up to the minute. All this holds of every year that is kept, years before the first and beyond 9999 included.
-/

namespace AlbumBrowser

open Calendar Text

variable {c : Civil}

/-! ### Date keys -/

theorem Calendar.isVisible_yearText (year : Int) : IsVisible (yearText year) := by
  have hrun : IsVisible (paddedDigits 4 year.natAbs) := isVisible_paddedDigits 4 year.natAbs
  unfold yearText
  split
  · exact List.forall_mem_cons.mpr ⟨by decide, hrun⟩
  · split
    · exact hrun
    · exact List.forall_mem_cons.mpr ⟨by decide, hrun⟩

namespace Calendar.Layout

theorem date_write (c : Civil) : date.write c =
    yearText c.date.year ++ '-' :: (paddedDigits 2 c.date.month ++ '-' :: paddedDigits 2 c.date.day) := by
  simp [write, date, Piece.write, Field.write]

theorem trim_date_write (c : Civil) : trim (date.write c) = date.write c := by
  have hdash : ∀ {s}, IsVisible s → IsVisible ('-' :: s) := fun hs => List.forall_mem_cons.mpr ⟨by decide, hs⟩
  have hmonth : IsVisible (paddedDigits 2 c.date.month ++ '-' :: paddedDigits 2 c.date.day) :=
    List.forall_mem_append.mpr ⟨isVisible_paddedDigits _ _, hdash (isVisible_paddedDigits _ _)⟩
  have hdate : IsVisible (date.write c) := by
    rw [date_write]
    exact List.forall_mem_append.mpr ⟨isVisible_yearText _, hdash hmonth⟩
  exact trim_eq_self hdate.isTrimmed

theorem date_read_write (hc : c.Valid) : date.read (date.write c) = some { Civil.zero with date := c.date } :=
  read_write (by decide) hc ⟨hc.1, Nat.zero_le _, Nat.zero_le _, Nat.zero_le _⟩

end Calendar.Layout

/-- A date in full width, of any year that is kept, is read as the midnight that begins it. -/
theorem Timestamp.parse_date_write (hc : c.Valid) :
    parse (String.ofList (Layout.date.write c)) = some (.instant ⟨86400 * c.date.dayNumber, 0⟩) := by
  obtain ⟨d, hspells, hd, hread⟩ := Layout.date_read_eq_some_iff.mp (Layout.date_read_write hc)
  have hdate : c.date = d := congrArg Civil.date hread
  refine parse_eq_some_iff.mpr (Or.inl ?_)
  rw [String.toList_ofList, Layout.trim_date_write, hdate]
  exact .date hspells hd

/-! ### Clock keys -/

/-- A text of the form `HH:MM:00` with a time of day. -/
def IsClockKey (text : String) (hours minutes : Nat) : Prop :=
  ∃ a b c d, text = String.ofList [a, b, ':', c, d, ':', '0', '0'] ∧ IsDigits [a, b, c, d] ∧
    (ofDigits [a, b] = hours ∧ hours ≤ 23) ∧ ofDigits [c, d] = minutes ∧ minutes ≤ 59

theorem Text.paddedDigits_two {n : Nat} (h : n ≤ 99) :
    ∃ a b, paddedDigits 2 n = [a, b] ∧ IsDigits [a, b] ∧ ofDigits [a, b] = n := by
  obtain ⟨a, b, hab⟩ := List.length_eq_two.mp (length_paddedDigits (by decide : 0 < 2) (Nat.lt_succ_of_le h))
  have hdigits := isDigits_paddedDigits 2 n
  have hvalue := ofDigits_paddedDigits 2 n
  rw [hab] at hdigits hvalue
  exact ⟨a, b, hab, hdigits, hvalue⟩

theorem isClockKey_write (hc : c.Valid) : IsClockKey (String.ofList (Layout.clockKey.write c)) c.hour c.minute := by
  obtain ⟨-, hhour, hminute, -⟩ := hc
  obtain ⟨a, b, hhours, hdigits, hh⟩ := paddedDigits_two (Nat.le_trans hhour (by decide))
  obtain ⟨x, y, hminutes, hdigits', hm⟩ := paddedDigits_two (Nat.le_trans hminute (by decide))
  refine ⟨a, b, x, y, ?_, ?_, ⟨hh, hhour⟩, hm, hminute⟩
  · simp [Layout.write, Layout.clockKey, Layout.clock, Piece.write, Field.write, hhours, hminutes]
  · exact List.forall_mem_append.mpr ⟨hdigits, hdigits'⟩

/-! ### What a clock shows -/

/-- The midnight that begins a moment's day, and the full minutes since then. -/
theorem Calendar.Moment.civil_bounds (m : Moment) :
    (86400 * m.civil.date.dayNumber ≤ m.second ∧ m.second < 86400 * m.civil.date.dayNumber + 86400) ∧
    86400 * m.civil.date.dayNumber + 3600 * m.civil.hour + 60 * m.civil.minute ≤ m.second ∧
    m.second < 86400 * m.civil.date.dayNumber + 3600 * m.civil.hour + 60 * m.civil.minute + 60 := by
  have hday : m.civil.date.dayNumber = m.second / 86400 := Date.dayNumber_ofDayNumber _
  have hhour : m.civil.hour = (m.second % 86400).toNat / 3600 := rfl
  have hminute : m.civil.minute = (m.second % 86400).toNat / 60 % 60 := rfl
  rw [hday, hhour, hminute]
  omega

section Keys

variable {zone : ViewerZone} {m : Moment} {offset : Int}

/-- Every text of a point of time that can be placed gives what the clock shows. -/
theorem ViewerZone.render_instant (hoffset : (zone.zoneAt m).offset = offset) (hplaced : (m.shift offset).InCalendar)
    (layout : Layout) : (zone.zoneFor (some (.instant m))).render layout (some (.instant m)) =
      some (String.ofList (layout.write (m.shift offset).civil)) := by
  change ((zone.zoneAt m).wallClock? m).map _ = _
  rw [Zone.wallClock?, hoffset, if_pos hplaced]
  rfl

/-- The keys of a point of time tell what the viewer's clock shows at it. The date key is read as a timestamp again,
as the midnight that begins the day, and from there the hours and minutes of the clock key lead to within a minute.
So a bare date keeps its day in a zone at the zero meridian or east of it, and west of it is shown a day
earlier. -/
theorem keys_tell_time (hoffset : (zone.zoneAt m).offset = offset) (hplaced : (m.shift offset).InCalendar) :
    ∃ key clock midnight hours minutes,
      zone.dateKey (some (.instant m)) = some key ∧ Timestamp.parse key = some (.instant ⟨midnight, 0⟩) ∧
      86400 ∣ midnight ∧ midnight ≤ m.second + offset ∧ m.second + offset < midnight + 86400 ∧
      zone.clockKey (some (.instant m)) = some clock ∧ IsClockKey clock hours minutes ∧
      midnight + 3600 * hours + 60 * minutes ≤ m.second + offset ∧
      m.second + offset < midnight + 3600 * hours + 60 * minutes + 60 ∧
      (86400 ∣ m.second → midnight = if 0 ≤ offset then m.second else m.second - 86400) := by
  have hvalid := Moment.valid_civil hplaced
  obtain ⟨⟨hlow, hhigh⟩, hfrom, hto⟩ := Moment.civil_bounds (m.shift offset)
  refine ⟨_, _, 86400 * (m.shift offset).civil.date.dayNumber, _, _, ViewerZone.render_instant hoffset hplaced _,
    Timestamp.parse_date_write hvalid, Int.dvd_mul_right _ _, hlow, hhigh,
    ViewerZone.render_instant hoffset hplaced _, isClockKey_write hvalid, hfrom, hto, ?_⟩
  -- The offset is less than a day, so that a midnight is shifted within its own day or the day before.
  have hwest := (zone.zoneAt m).gt_neg_day
  have heast := (zone.zoneAt m).lt_day
  rw [hoffset] at hwest heast
  intro hmidnight
  change _ ≤ m.second + offset at hlow
  change m.second + offset < _ at hhigh
  split <;> omega

/-- A leap second at the end of the year 9999, in a zone one minute east of the zero meridian. -/
theorem keys_tell_time_in_leap_second : ∃ (zone : Zone) (m : Moment) (midnight : Int) (hours minutes : Nat),
    (zone.offset, m) = (60, ⟨253402300799, 1500000000⟩) ∧ (m.shift zone.offset).InCalendar ∧
    zone.dateKey (some (.instant m)) = some "+10000-01-01" ∧
    Timestamp.parse "+10000-01-01" = some (.instant ⟨midnight, 0⟩) ∧
    86400 ∣ midnight ∧ midnight ≤ m.second + zone.offset ∧ m.second + zone.offset < midnight + 86400 ∧
    zone.clockKey (some (.instant m)) = some "00:00:00" ∧ IsClockKey "00:00:00" hours minutes ∧
    midnight + 3600 * hours + 60 * minutes ≤ m.second + zone.offset ∧
    m.second + zone.offset < midnight + 3600 * hours + 60 * minutes + 60 := by
  have hoffset : ((ViewerZone.fixed { offset := 60 }).zoneAt ⟨253402300799, 1500000000⟩).offset = 60 := rfl
  have hplaced : (Moment.shift ⟨253402300799, 1500000000⟩ 60).InCalendar := by decide
  have hkey : Zone.dateKey { offset := 60 } (some (.instant ⟨253402300799, 1500000000⟩)) = some "+10000-01-01" := by
    decide +kernel
  have hclock : Zone.clockKey { offset := 60 } (some (.instant ⟨253402300799, 1500000000⟩)) = some "00:00:00" := by
    decide +kernel
  obtain ⟨key, clock, midnight, hours, minutes, hkey', hread, hday, hlow, hhigh, hclock', hform, hfrom, hto, -⟩ :=
    keys_tell_time hoffset hplaced
  cases hkey.symm.trans (ViewerZone.dateKey_fixed _ _ ▸ hkey')
  cases hclock.symm.trans (ViewerZone.clockKey_fixed _ _ ▸ hclock')
  exact ⟨{ offset := 60 }, _, midnight, hours, minutes, rfl, hplaced, hkey, hread, hday, hlow, hhigh, hclock, hform,
    hfrom, hto⟩

end Keys

end AlbumBrowser
