import AlbumBrowser.CommandLine.Program
import AlbumBrowser.Proofs.Gallery.Stepping
import AlbumBrowser.Proofs.Viewer.Change

/-!
What the command that shows an album comes to. Each operation on a viewer with an open album leaves it with
another place in the same album, and as the album could be shown once, it can be shown at every place. So the
command fails for an unknown album or folder only, and else shows the place that its steps lead to.
-/

namespace AlbumBrowser

/-- Whether an album can be shown does not depend on the place in it. -/
theorem OpenAlbum.exists_view {o o' : OpenAlbum} {zone : ViewerZone} {view : AlbumView} (h : o.view zone = some view)
    (halbum : o'.album = o.album) : ∃ view', o'.view zone = some view' := by
  have hshown : o.view zone ≠ none := by
    rw [h]
    exact Option.some_ne_none view
  rw [view_ne_none_iff, ← halbum] at hshown
  exact Option.ne_none_iff_exists'.mp (view_ne_none_iff.mpr hshown)

theorem OpenAlbum.album_of_select? {o o' : OpenAlbum} {key : String} (h : o.select? key = some o') :
    o'.album = o.album := by
  obtain ⟨f, -, rfl⟩ := Option.map_eq_some_iff.mp h
  rfl

/-- The buttons of a view are those of the folders that can be chosen. -/
theorem OpenAlbum.any_folders_of_view {o : OpenAlbum} {zone : ViewerZone} {view : AlbumView}
    (h : o.view zone = some view) (key : String) : view.folders.any (·.key = key) = (o.select? key).isSome := by
  obtain ⟨date, -, hview⟩ := Option.bind_eq_some_iff.mp h
  cases hview
  rw [select?, Option.isSome_map, Album.folder?, Bool.eq_iff_iff]
  simp [List.find?_isSome]

namespace Viewer

variable {v : Viewer} {o o' : OpenAlbum}

/-- The viewer with an album open at a place. -/
def showing (v : Viewer) (o : OpenAlbum) : Viewer := { v with gallery := { v.gallery with opened := some o } }

theorem albumView_showing (v : Viewer) (o : OpenAlbum) : (v.showing o).albumView = (o.view v.zone).map some := rfl

/-- A look at the place that a change leads to. -/
theorem browse_showing {change : Gallery → Gallery} (h : change v.gallery = { v.gallery with opened := some o }) :
    v.browse change = (o.view v.zone).map fun view => (some view, v.showing o) := by
  rw [browse_eq, h, Gallery.albumView_of_opened rfl, Option.map_map]
  rfl

theorem openAlbum_of_find? {id : String} {a : Album} (h : v.gallery.find? id = some a) :
    v.openAlbum id = (OpenAlbum.view { album := a } v.zone).map fun view =>
      (some view, v.showing { album := a }) := by
  rw [openAlbum, h]
  exact browse_showing rfl

theorem openAlbum_of_find?_none {id : String} (h : v.gallery.find? id = none) : v.openAlbum id = some (none, v) := by
  rw [openAlbum, h]

theorem selectFolder_showing {key : String} (h : o.select? key = some o') :
    (v.showing o).selectFolder key = (o'.view v.zone).map fun view => (some view, v.showing o') := by
  apply browse_showing (v := v.showing o)
  simp [showing, Gallery.select?, h]

/-- A way to step through an open album. -/
def Steps (step : Viewer → Option (Option AlbumView × Viewer)) (turn : OpenAlbum → OpenAlbum) : Prop :=
  ∀ (v : Viewer) (o : OpenAlbum), (turn o).album = o.album ∧
    step (v.showing o) = ((turn o).view v.zone).map fun view => (some view, v.showing (turn o))

theorem steps_next : Steps Viewer.next OpenAlbum.next := fun v o =>
  ⟨o.album_next, browse_showing (v := v.showing o) rfl⟩

theorem steps_prev : Steps Viewer.prev OpenAlbum.prev := fun v o =>
  ⟨o.album_prev, browse_showing (v := v.showing o) rfl⟩

end Viewer

namespace CommandLine

open Viewer

variable {v : Viewer} {o o' : OpenAlbum} {id key : String} {steps : Int} {a : Album} {view : AlbumView}

theorem stepThrough_showing {step : Viewer → Option (Option AlbumView × Viewer)} {turn : OpenAlbum → OpenAlbum}
    (h : Steps step turn) (hview : o.view v.zone = some view) (n : Nat) :
    ∃ view', (turn^[n] o).view v.zone = some view' ∧
      stepThrough step view (v.showing o) n = some (.ok (view', v.showing (turn^[n] o))) := by
  induction n generalizing o view with
  | zero => exact ⟨view, hview, rfl⟩
  | succ n ih =>
      obtain ⟨halbum, hstep⟩ := h v o
      obtain ⟨next, hnext⟩ := OpenAlbum.exists_view hview halbum
      rw [hnext] at hstep
      rw [stepThrough, hstep]
      exact ih hnext

theorem browse_unknownAlbum (h : v.gallery.find? id = none) (folder : Option String) :
    browse v id folder steps = some (.error (.unknownAlbum id v.gallery.albums.length)) := by
  rw [browse, openAlbum_of_find?_none h]
  rfl

theorem browse_unshown (h : v.gallery.find? id = some a) (hview : OpenAlbum.view { album := a } v.zone = none)
    (folder : Option String) : browse v id folder steps = none := by
  rw [browse, openAlbum_of_find? h, hview]
  rfl

theorem browse_album (h : v.gallery.find? id = some a) (hview : OpenAlbum.view { album := a } v.zone = some view) :
    browse v id none steps = some (.ok view) := by
  rw [browse, openAlbum_of_find? h, hview]
  rfl

theorem browse_unknownFolder (h : v.gallery.find? id = some a)
    (hview : OpenAlbum.view { album := a } v.zone = some view)
    (hkey : OpenAlbum.select? { album := a } key = none) :
    browse v id (some key) steps = some (.error (.unknownFolder id key)) := by
  have hany := OpenAlbum.any_folders_of_view hview key
  rw [hkey, Option.isSome_none] at hany
  rw [browse, openAlbum_of_find? h, hview]
  simp only [Option.map_some, Option.bind_eq_bind, Option.bind_some, hany, Bool.not_false, if_true]
  rfl

theorem browse_folder (steps : Int) (h : v.gallery.find? id = some a)
    (hview : OpenAlbum.view { album := a } v.zone = some view)
    (hkey : OpenAlbum.select? { album := a } key = some o) :
    ∃ view', ((if 0 < steps then OpenAlbum.next else OpenAlbum.prev)^[steps.natAbs] o).view v.zone = some view' ∧
      browse v id (some key) steps = some (.ok view') := by
  obtain ⟨chosen, hchosen⟩ := OpenAlbum.exists_view hview (OpenAlbum.album_of_select? hkey)
  have hway : Steps (if 0 < steps then Viewer.next else Viewer.prev)
      (if 0 < steps then OpenAlbum.next else OpenAlbum.prev) := by
    split
    · exact steps_next
    · exact steps_prev
  obtain ⟨view', hview', hsteps⟩ := stepThrough_showing hway hchosen steps.natAbs
  refine ⟨view', hview', ?_⟩
  have hany := OpenAlbum.any_folders_of_view hview key
  rw [hkey, Option.isSome_some] at hany
  rw [browse, openAlbum_of_find? h, hview]
  simp only [Option.map_some, Option.bind_eq_bind, Option.bind_some, hany, Bool.not_true]
  rw [selectFolder_showing hkey, hchosen]
  simp only [Option.map_some, opened, Option.bind_some, hsteps]
  rfl

theorem loaded_ok (source : String) (zone : ViewerZone) (albums : List Album) :
    loaded source zone (.ok albums) =
      .ok { fresh source zone with gallery := ({} : Gallery).replace albums, issued := 1, applied := 1 } := rfl

end CommandLine

end AlbumBrowser
