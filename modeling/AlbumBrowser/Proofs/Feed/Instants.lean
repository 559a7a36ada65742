import AlbumBrowser.Calendar.DayNumber
import AlbumBrowser.Proofs.Feed.Records
import AlbumBrowser.Proofs.Timestamp.Readers

/-!
The points of time that a feed names. However a timestamp is written, with an offset, as a bare date, with
the mark of the zero meridian or in milliseconds, the moment that is read lies in the kept years: the
written years are checked, an offset is only taken with years of four digits, and milliseconds beyond the
calendar are kept as text. It is a viewer's own zone that can lead out of the kept years.
-/

namespace AlbumBrowser

open Calendar Text

namespace Calendar

theorem WritesDate.year_bounds {d : Date} {t : List Char} (h : WritesDate d t) : 0 ≤ d.year ∧ d.year ≤ 9999 := by
  obtain ⟨hyear, -, -⟩ := h
  have hlt := hyear.lt
  simp only
  omega

theorem SpellsOffset.bounds {offset : Int} {t : List Char} (h : SpellsOffset offset t) :
    -86400 < offset ∧ offset < 86400 := by
  cases h with
  | zero => decide
  | east => omega
  | west => omega

/-- Years of four digits are so far inside the calendar that no offset leads out of it. -/
theorem SpellsOffsetTime.inCalendar {s : List Char} {m : Moment} (h : SpellsOffsetTime m s) : m.InCalendar := by
  cases h with
  | @fields mark c offset t u hmark ht hc hu =>
      obtain ⟨hwest, heast⟩ := hu.bounds
      obtain ⟨hlow, hhigh⟩ := Civil.second_moment_bounds hc
      obtain ⟨hdate, -, -⟩ := ht
      obtain ⟨hfirst, hlast⟩ := hdate.year_bounds
      rw [Date.dayNumber_first] at hlow
      rw [Date.dayNumber_last] at hhigh
      unfold Date.yearStart Date.epoch at hlow hhigh
      unfold Moment.InCalendar
      rw [Moment.firstSecond_eq, Moment.lastSecond_eq, Moment.shift]
      simp only at hlow hhigh ⊢
      omega

end Calendar

namespace Timestamp

/-- The moment that a timestamp holds, be it a point of time or what a clock shows. -/
def moment? : Timestamp → Option Moment
  | instant m | wallClock m => some m
  | unreadable _ => none

theorem Spells.inCalendar {t : Timestamp} {s : List Char} (h : Spells t s) {m : Moment} (hm : t.moment? = some m) :
    m.InCalendar := by
  cases h with
  | offset h =>
      cases hm
      exact h.inCalendar
  | @date d _ _ hd =>
      cases hm
      rw [← midnight]
      exact Civil.inCalendar_moment ⟨hd, Nat.zero_le _, Nat.zero_le _, Nat.zero_le _⟩
  | zero _ _ _ hc | minutes _ _ _ hc | seconds _ _ _ _ hc =>
      cases hm
      exact Civil.inCalendar_moment hc

theorem inCalendar_of_parse {raw : String} {t : Timestamp} (h : parse raw = some t) {m : Moment}
    (hm : t.moment? = some m) : m.InCalendar := by
  rcases parse_eq_some_iff.mp h with hspells | ⟨-, rfl⟩
  · exact hspells.inCalendar hm
  · cases hm

theorem inCalendar_of_ofMillis {millis : Int} {m : Moment} (h : (ofMillis millis).moment? = some m) :
    m.InCalendar := by
  unfold ofMillis at h
  split at h
  · cases h
    assumption
  · cases h

theorem inCalendar_of_ofJson {v : Json.Value} {t : Timestamp} (h : ofJson v = some t) {m : Moment}
    (hm : t.moment? = some m) : m.InCalendar := by
  unfold ofJson at h
  split at h
  · cases h
  · exact inCalendar_of_parse h hm
  · cases h
    exact inCalendar_of_ofMillis hm
  · cases h
    exact inCalendar_of_ofMillis hm
  · cases h
    cases hm

end Timestamp

namespace Feed

/-- Every moment that a feed names lies in the kept years. -/
theorem moment_inCalendar_of_parse {text : String} {albums : List Album} (h : parse text = .ok albums) {a : Album}
    (ha : a ∈ albums) {t : Timestamp} (ht : a.timestamp = some t) {m : Moment} (hm : t.moment? = some m) :
    m.InCalendar := by
  obtain ⟨members, rfl⟩ := mem_of_parse h ha
  exact Timestamp.inCalendar_of_ofJson ht hm

theorem inCalendar_of_parse {text : String} {albums : List Album} (h : parse text = .ok albums) {a : Album}
    (ha : a ∈ albums) {m : Moment} (hm : a.timestamp = some (.instant m)) : m.InCalendar :=
  moment_inCalendar_of_parse h ha hm rfl

end Feed

end AlbumBrowser
