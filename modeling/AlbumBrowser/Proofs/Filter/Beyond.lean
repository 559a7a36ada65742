import AlbumBrowser.Proofs.Filter.Admission

/-!
Albums that a viewer's clock cannot place. A point of time in the kept years may still read, in a zone east
or west of the zero meridian, as a time past their end or before their beginning, and then it has no text
in any layout. Showing such an album, dating it and timing it all fail alike, so a filter has an answer
exactly when every album that it is asked about can be placed, whatever its criteria.
-/

namespace AlbumBrowser

open Calendar

/-- The zone's clock shows the time of a timestamp outside the kept years. Only a point of time is read off
a clock. -/
def Timestamp.Beyond (zone : ViewerZone) : Option Timestamp → Prop
  | some (.instant m) => ¬ (m.shift (zone.zoneAt m).offset).InCalendar
  | _ => False

instance (zone : ViewerZone) (t : Option Timestamp) : Decidable (Timestamp.Beyond zone t) :=
  match t with
  | none => isFalse id
  | some (.instant _) => inferInstanceAs (Decidable (¬ _))
  | some (.wallClock _) => isFalse id
  | some (.unreadable _) => isFalse id

/-- The zone's clock shows the album's time outside the kept years. -/
def Album.Beyond (zone : ViewerZone) (a : Album) : Prop := Timestamp.Beyond zone a.timestamp

instance (zone : ViewerZone) (a : Album) : Decidable (a.Beyond zone) :=
  inferInstanceAs (Decidable (Timestamp.Beyond zone a.timestamp))

variable {zone : ViewerZone} {a : Album}

theorem Timestamp.beyond_iff {t : Option Timestamp} : Beyond zone t ↔
    ∃ m, t = some (instant m) ∧ ¬ (m.shift (zone.zoneAt m).offset).InCalendar := by
  rcases t with _ | (m | m | text) <;> simp [Beyond]

/-- A timestamp lacks a text in every layout or in none. -/
theorem ViewerZone.render_eq_none_iff {layout : Layout} {t : Option Timestamp} :
    (zone.zoneFor t).render layout t = none ↔ Timestamp.Beyond zone t := by
  rcases t with _ | (m | m | text)
  · simp [Zone.render, Timestamp.Beyond]
  · change ((zone.zoneAt m).wallClock? m).map _ = none ↔ ¬ (m.shift (zone.zoneAt m).offset).InCalendar
    rw [Option.map_eq_none_iff, Zone.wallClock?]
    split <;> simp_all
  · simp [Zone.render, Timestamp.Beyond]
  · simp [Zone.render, Timestamp.Beyond]

theorem ViewerZone.display_eq_none_iff {t : Option Timestamp} : zone.display t = none ↔ Timestamp.Beyond zone t :=
  render_eq_none_iff

namespace Album

theorem card_eq_none_iff : a.card zone = none ↔ a.Beyond zone := by
  rw [Beyond, ← ViewerZone.display_eq_none_iff, card]
  cases zone.display a.timestamp <;> simp

/-- Cards are drawn one after the other, and one that cannot be drawn leaves none. -/
theorem cards_eq_none_iff {albums : List Album} :
    albums.mapM (·.card zone) = none ↔ ∃ a ∈ albums, a.Beyond zone := by
  induction albums with
  | nil => simp
  | cons a rest ih =>
      simp only [List.mapM_cons, List.mem_cons, exists_eq_or_imp]
      rw [← ih, ← card_eq_none_iff]
      cases a.card zone with
      | none => simp
      | some card => cases rest.mapM (·.card zone) <;> simp

theorem matchesDate_eq_none_iff {date : String} :
    a.matchesDate zone date = none ↔ date ≠ "" ∧ a.Beyond zone := by
  unfold matchesDate
  split
  · simp_all
  · rename_i hdate
    rw [Option.map_eq_none_iff]
    simp only [ne_eq, hdate, not_false_eq_true, true_and]
    exact ViewerZone.render_eq_none_iff

theorem matchesTime_eq_none_iff {startTime endTime : String} :
    a.matchesTime zone startTime endTime = none ↔ a.Beyond zone := by
  unfold matchesTime
  split
  · rename_i hnone
    simp [Beyond, hnone, Timestamp.Beyond]
  · rw [Option.map_eq_none_iff]
    exact ViewerZone.render_eq_none_iff

end Album

namespace Criteria

variable {c : Criteria}

/-- No criteria pass over an album that cannot be placed: its time is asked for even when no bound is set, and
only a date that it does not have would end the tests before that. -/
theorem admits_eq_none_iff : c.admits zone a = none ↔ a.Beyond zone := by
  by_cases hbeyond : a.Beyond zone
  · refine iff_of_true ?_ hbeyond
    refine Decidable.byContradiction fun hanswer => ?_
    obtain ⟨hdate, htime⟩ := admits_ne_none_iff.mp hanswer
    by_cases hopen : c.date = ""
    · exact htime (if_pos hopen) (Album.matchesTime_eq_none_iff.mpr hbeyond)
    · exact hdate (Album.matchesDate_eq_none_iff.mpr ⟨hopen, hbeyond⟩)
  · refine iff_of_false ?_ hbeyond
    rw [← ne_eq, admits_ne_none_iff, ne_eq, ne_eq, Album.matchesDate_eq_none_iff, Album.matchesTime_eq_none_iff]
    exact ⟨fun hdate => hbeyond hdate.2, fun _ => hbeyond⟩

theorem keep_eq_none_iff {albums : List Album} :
    c.keep zone albums = none ↔ ∃ a ∈ albums, a.Beyond zone := by
  cases hkeep : c.keep zone albums with
  | none =>
      refine iff_of_true rfl ?_
      refine Decidable.byContradiction fun hplaced => ?_
      have hanswered : ∀ a ∈ albums, c.admits zone a ≠ none := by
        intro a ha hnone
        exact hplaced ⟨a, ha, admits_eq_none_iff.mp hnone⟩
      have hkept := keep_eq_some_iff.mpr ⟨hanswered, rfl⟩
      rw [hkeep] at hkept
      cases hkept
  | some kept =>
      refine iff_of_false (Option.some_ne_none kept) ?_
      rintro ⟨a, ha, hbeyond⟩
      exact (keep_eq_some_iff.mp hkeep).1 a ha (admits_eq_none_iff.mpr hbeyond)

end Criteria

namespace Gallery

variable {g : Gallery}

theorem galleryView_eq_none_iff {filtered : Bool} :
    g.galleryView zone filtered = none ↔ ∃ a ∈ g.visible, a.Beyond zone := by
  rw [← Album.cards_eq_none_iff]
  unfold galleryView
  cases g.visible.mapM (·.card zone) <;> simp

theorem albumView_eq_none_iff :
    g.albumView zone = none ↔ ∃ o, g.opened = some o ∧ o.album.Beyond zone := by
  unfold albumView
  cases g.opened with
  | none => simp
  | some o =>
      cases hdate : zone.display o.album.timestamp with
      | none => simp [OpenAlbum.view, hdate, Album.Beyond, ViewerZone.display_eq_none_iff.mp hdate]
      | some date =>
          have hplaced : ¬ o.album.Beyond zone := by
            intro hbeyond
            rw [Album.Beyond, ← ViewerZone.display_eq_none_iff, hdate] at hbeyond
            cases hbeyond
          simp [OpenAlbum.view, hdate, hplaced]

end Gallery

end AlbumBrowser
