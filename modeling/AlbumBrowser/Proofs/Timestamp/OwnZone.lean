import AlbumBrowser.Proofs.Timestamp.Documented
import AlbumBrowser.Proofs.Timestamp.Keys
import AlbumBrowser.Proofs.Zone.Notation

/-!
An offset that is read in its own zone. A date and time with an offset is put back by the offset to the zero meridian,
and the zone that the same offset names puts it forth again, so a clock in that zone shows the date and time as
it is written: just what any clock shows for the same text without the offset. This holds across the ends of days,
months and years, in leap seconds, and in the year 0.
-/

namespace AlbumBrowser

open Calendar Text

variable {sign : Char} {hour minute : Nat} {c : Civil} {w t : List Char}

namespace ViewerZone

/-- A point of time, given by what a clock in a zone shows at it, is shown so in that zone. -/
theorem render_instant_shift (zone : Zone) (hc : c.Valid) (hfields : c.moment.civil = c) (layout : Layout) :
    ((fixed zone).zoneFor (some (.instant (c.moment.shift (-zone.offset))))).render layout
      (some (.instant (c.moment.shift (-zone.offset)))) = some (String.ofList (layout.write c)) := by
  have hback : (c.moment.shift (-zone.offset)).shift zone.offset = c.moment :=
    congrArg (Moment.mk · _) (Int.neg_add_cancel_right _ _)
  have hoffset : ((fixed zone).zoneAt (c.moment.shift (-zone.offset))).offset = zone.offset := rfl
  have hplaced : ((c.moment.shift (-zone.offset)).shift zone.offset).InCalendar := by
    rw [hback]
    exact Civil.inCalendar_moment hc
  have hshown := render_instant hoffset hplaced layout
  rwa [hback, hfields] at hshown

/-- What a clock shows already is shown so in every zone. -/
theorem render_wallClock (zone : ViewerZone) (hfields : c.moment.civil = c) (layout : Layout) :
    (zone.zoneFor (some (.wallClock c.moment))).render layout (some (.wallClock c.moment)) =
      some (String.ofList (layout.write c)) :=
  congrArg (fun c => some (String.ofList (layout.write c))) hfields

end ViewerZone

namespace Timestamp

/-- A date and time with an offset, in the zone that the offset names, is shown just as the same date and time without
an offset is shown in any zone: both are shown with the fields that are written. -/
theorem shown_alike_in_own_zone (hw : WritesCivil 'T' c w) (hc : c.Valid) (hsign : sign = '+' ∨ sign = '-')
    (ht : WritesClock hour minute t) (hhour : hour ≤ 23) (hminute : minute ≤ 59) :
    ∃ (zone : Zone) (m m' : Moment), Zone.parse (String.ofList (sign :: t)) = some (.ok zone) ∧
      parse (String.ofList (w ++ sign :: t)) = some (.instant m) ∧ parse (String.ofList w) = some (.wallClock m') ∧
      ∀ other : ViewerZone,
        ((zone : ViewerZone).display (some (.instant m)) = some (String.ofList (Layout.display.write c)) ∧
          other.display (some (.wallClock m')) = some (String.ofList (Layout.display.write c))) ∧
        ((zone : ViewerZone).dateKey (some (.instant m)) = some (String.ofList (Layout.date.write c)) ∧
          other.dateKey (some (.wallClock m')) = some (String.ofList (Layout.date.write c))) ∧
        ((zone : ViewerZone).clockKey (some (.instant m)) = some (String.ofList (Layout.clockKey.write c)) ∧
          other.clockKey (some (.wallClock m')) = some (String.ofList (Layout.clockKey.write c))) := by
  obtain ⟨zone, hzone, hoffset⟩ := Zone.exists_of_writesClock hsign ht hhour hminute
  have hspells := Zone.spellsOffset_writtenOffset hsign ht hhour hminute
  rw [← hoffset] at hspells
  have hminus : '\u2212' ∉ sign :: t := by
    have hclock : '\u2212' ∉ t := List.count_eq_zero.mp (ht.count_eq (by decide))
    rcases hsign with rfl | rfl <;> simp [hclock]
  have hinstant := parse_of_documented (.offset (Or.inl rfl) hw hc hspells hminus) isGap_nil isGap_nil
  have hwall := parse_of_documented (.seconds (Or.inl rfl) hw hc) isGap_nil isGap_nil
  rw [List.nil_append, List.append_nil] at hinstant hwall
  have hfields : c.moment.civil = c := hw.civil_moment hc
  have hown := ViewerZone.render_instant_shift zone hc hfields
  refine ⟨zone, _, _, hzone, hinstant, hwall, fun other => ?_⟩
  have hother := other.render_wallClock hfields
  exact ⟨⟨hown Layout.display, hother Layout.display⟩, ⟨hown Layout.date, hother Layout.date⟩,
    hown Layout.clockKey, hother Layout.clockKey⟩

/-- The leap second that ends the leap day of the year 0, almost a day west of the zero meridian. -/
theorem shown_alike_in_own_zone_on_leap_day : ∃ (zone : Zone) (m m' : Moment), Zone.parse "-23:59" = some (.ok zone) ∧
    parse "0000-02-29T23:59:60.9-23:59" = some (.instant m) ∧ parse "0000-02-29T23:59:60.9" = some (.wallClock m') ∧
    ∀ other : ViewerZone,
      ((zone : ViewerZone).display (some (.instant m)) = some "29/02/0000 23:59" ∧
        other.display (some (.wallClock m')) = some "29/02/0000 23:59") ∧
      ((zone : ViewerZone).dateKey (some (.instant m)) = some "0000-02-29" ∧
        other.dateKey (some (.wallClock m')) = some "0000-02-29") ∧
      ((zone : ViewerZone).clockKey (some (.instant m)) = some "23:59:00" ∧
        other.clockKey (some (.wallClock m')) = some "23:59:00") := by
  have hday : WritesDate ⟨0, 2, 29⟩ ("0000".toList ++ '-' :: ("02".toList ++ '-' :: "29".toList)) :=
    .fields (by decide) (by decide) (by decide)
  have hclock : WritesClock 23 59 ("23".toList ++ ':' :: "59".toList) := .fields (by decide) (by decide)
  have hseconds : WritesSeconds 60 900000000 ("60".toList ++ '.' :: "9".toList) :=
    .fields (by decide) (.of_eq (by decide) (by decide) (by decide))
  have hshown := shown_alike_in_own_zone (.fields hday hclock hseconds) (by decide) (Or.inr rfl) hclock (by decide)
    (by decide)
  rw [show String.ofList (Layout.display.write _) = "29/02/0000 23:59" by decide,
    show String.ofList (Layout.date.write _) = "0000-02-29" by decide,
    show String.ofList (Layout.clockKey.write _) = "23:59:00" by decide] at hshown
  obtain ⟨zone, m, m', hzone, hinstant, hwall, hother⟩ := hshown
  exact ⟨zone, m, m', (congrArg Zone.parse (by decide)).trans hzone, (congrArg parse (by decide)).trans hinstant,
    (congrArg parse (by decide)).trans hwall, hother⟩

end Timestamp

end AlbumBrowser
