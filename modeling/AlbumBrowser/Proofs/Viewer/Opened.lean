import AlbumBrowser.Proofs.Viewer.Change

/-!
The album that is open in a viewer. Its place among the images is sound, since a viewer does to its gallery
nothing but gallery operations. It can also be shown: an album is opened only by showing it, and neither a
load nor a filter touches it, so an open album has a view at the end of every run.
-/

namespace AlbumBrowser.Viewer

variable {source : String} {zone : ViewerZone} {v w : Viewer} {ops : List Operation} {outcomes : List Outcome}

theorem Change.albumView_ne_none {k : Concern} (h : Change v k w) (hv : v.albumView ≠ none) :
    w.albumView ≠ none := by
  cases h with
  | issued | installed | filtered => exact hv
  | browsed op hop hview => exact hview

theorem albumView_ne_none_of_run (h : (fresh source zone).run ops = some (outcomes, w)) :
    w.albumView ≠ none :=
  run_invariant (fun _ _ _ hchange => hchange.albumView_ne_none) h (Option.some_ne_none none)

/-- What is open is in good order after every run, of operations on a bare gallery and of operations on a
viewer: its images and cursor agree with its folder, no view is given exactly when nothing is open, and
otherwise the view places the current image among those of the chosen folder. On a bare gallery an album
may be open whose time cannot be shown; a viewer has a view of whatever is open. -/
theorem view_places (h : (fresh source zone).run ops = some (outcomes, w)) :
    (∀ (g : Gallery) (zone : ViewerZone), g.Reached →
      (g.albumView zone = some none ↔ g.phase = .closed) ∧
      ∀ o, g.opened = some o → o.Sound ∧ (zone.display o.album.timestamp ≠ none →
        ∃ view, g.albumView zone = some (some view) ∧ view.Places o.album)) ∧
    (w.albumView = some none ↔ w.gallery.phase = .closed) ∧
    ∀ o, w.gallery.opened = some o →
      o.Sound ∧ ∃ view, w.albumView = some (some view) ∧ view.Places o.album := by
  refine ⟨?_, Gallery.albumView_eq_some_none_iff, ?_⟩
  · intro g zone hg
    refine ⟨Gallery.albumView_eq_some_none_iff, ?_⟩
    intro o ho
    exact ⟨hg.sound o ho, hg.sound.exists_view ho⟩
  · intro o ho
    have hsound := (reached_of_run h).sound
    -- The bare gallery needs a time that can be shown; here the view that is there provides it.
    have hview : (o.view w.zone).map some ≠ none := by
      rw [← Gallery.albumView_of_opened ho]
      exact albumView_ne_none_of_run h
    have hdate : w.zone.display o.album.timestamp ≠ none := by
      apply OpenAlbum.view_ne_none_iff.mp
      intro hnone
      rw [hnone] at hview
      exact hview rfl
    exact ⟨hsound o ho, hsound.exists_view ho hdate⟩

theorem view_places_after_sampleRun : ∃ outcomes w,
    (fresh "albums.json" Zone.utc).run sampleRun = some (outcomes, w) ∧
    w.albumView.map (·.map fun view => (view.activeFolder, view.image, view.position, view.total)) =
      some (some (some "cara", some "p/cara/2.jpg", 2, 2)) ∧
    (∀ (g : Gallery) (zone : ViewerZone), g.Reached →
      (g.albumView zone = some none ↔ g.phase = .closed) ∧
      ∀ o, g.opened = some o → o.Sound ∧ (zone.display o.album.timestamp ≠ none →
        ∃ view, g.albumView zone = some (some view) ∧ view.Places o.album)) ∧
    (w.albumView = some none ↔ w.gallery.phase = .closed) ∧
    ∀ o, w.gallery.opened = some o →
      o.Sound ∧ ∃ view, w.albumView = some (some view) ∧ view.Places o.album := by
  have hrun : ∃ outcomes w, (fresh "albums.json" Zone.utc).run sampleRun = some (outcomes, w) ∧
      w.albumView.map (·.map fun view => (view.activeFolder, view.image, view.position, view.total)) =
        some (some (some "cara", some "p/cara/2.jpg", 2, 2)) := ⟨_, _, rfl, rfl⟩
  obtain ⟨outcomes, w, hrun, hview⟩ := hrun
  exact ⟨outcomes, w, hrun, hview, view_places hrun⟩

end AlbumBrowser.Viewer
