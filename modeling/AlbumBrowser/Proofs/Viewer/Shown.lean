import AlbumBrowser.Proofs.Viewer.Change

/-!
The albums that are shown. The loaded list, the shown list and the criteria are kept apart and changed by
different operations, yet at the end of every run the shown list is what the criteria in force keep of all
loaded albums. A load is the one change that shows a list without filtering it: it puts the open criteria
in force and shows everything, also albums that no filter could place in the calendar.
-/

namespace AlbumBrowser.Viewer

variable {source : String} {zone : ViewerZone} {v w : Viewer} {ops : List Operation} {outcomes : List Outcome}

/-- No criteria are in force and all is shown, or what is shown is what the criteria keep of all. -/
def InStep (v : Viewer) : Prop :=
  v.criteria = Criteria.anything ∧ v.gallery.visible = v.gallery.albums ∨
    v.criteria.keep v.zone v.gallery.albums = some v.gallery.visible

theorem Change.inStep {k : Concern} (h : Change v k w) (hv : v.InStep) : w.InStep := by
  cases h with
  | issued => exact hv
  -- Not the right side: nobody has asked whether the open criteria can place the new albums.
  | installed ticket albums => exact Or.inl ⟨rfl, rfl⟩
  | filtered c visible hkeep => exact Or.inr hkeep
  | browsed op hop =>
      obtain ⟨halbums, hvisible⟩ := Gallery.lists_of_browses hop v.gallery
      unfold InStep
      rw [halbums, hvisible]
      exact hv

theorem inStep_of_run (h : (fresh source zone).run ops = some (outcomes, w)) : w.InStep :=
  run_invariant (fun _ _ _ hchange => hchange.inStep) h (Or.inl ⟨rfl, rfl⟩)

theorem InStep.eq_of_keep (h : v.InStep) {kept : List Album}
    (hkeep : v.criteria.keep v.zone v.gallery.albums = some kept) : kept = v.gallery.visible := by
  rcases h with ⟨hopen, hall⟩ | hshown
  · rw [hopen] at hkeep
    rw [hall, Criteria.eq_of_keep_anything hkeep]
  · rw [hshown] at hkeep
    exact (Option.some.inj hkeep).symm

theorem InStep.sublist (h : v.InStep) : v.gallery.visible.Sublist v.gallery.albums := by
  rcases h with ⟨-, hall⟩ | hshown
  · exact hall ▸ List.Sublist.refl _
  · exact Criteria.keep_sublist hshown

theorem InStep.visible_of_isDefault (h : v.InStep) (hopen : v.criteria.isDefault = true) :
    v.gallery.visible = v.gallery.albums := by
  rcases h with ⟨-, hall⟩ | hshown
  · exact hall
  · rw [of_decide_eq_true hopen] at hshown
    exact Criteria.eq_of_keep_anything hshown

/-- A filter draws on all loaded albums, so it undoes the filter before it. -/
theorem filter_filter {c : Criteria} {view : GalleryView} (h : v.filter c = some (view, w))
    (c' : Criteria) : w.filter c' = v.filter c' := by
  rw [filter_eq] at h
  obtain ⟨visible, -, hview⟩ := Option.bind_eq_some_iff.mp h
  obtain ⟨shown, -, heq⟩ := Option.map_eq_some_iff.mp hview
  cases heq
  rw [filter_eq, filter_eq]
  rfl

theorem galleryView_eq_some {view : GalleryView} (h : v.galleryView = some view) :
    v.gallery.visible.mapM (·.card v.zone) = some view.cards ∧ view.filtered = !v.criteria.isDefault := by
  obtain ⟨cards, hcards, heq⟩ := Option.bind_eq_some_iff.mp h
  cases heq
  exact ⟨hcards, rfl⟩

/-- After every run of operations from a new viewer the shown albums are a part of the loaded ones in their
order, and they are what the criteria in force keep of all, wherever that has an answer. A gallery that
is not marked as filtered shows the card of every loaded album, and filters do not compound. -/
theorem shown_eq_keep (h : (fresh source zone).run ops = some (outcomes, w)) :
    w.gallery.visible.Sublist w.gallery.albums ∧
    (∀ kept, w.criteria.keep zone w.gallery.albums = some kept → kept = w.gallery.visible) ∧
    (∀ view, w.galleryView = some view → view.filtered = false →
      w.gallery.visible = w.gallery.albums ∧ w.gallery.albums.mapM (·.card zone) = some view.cards) ∧
    (∀ c view w', w.filter c = some (view, w') → ∀ c', w'.filter c' = w.filter c') := by
  have hstep := inStep_of_run h
  have hzone := zone_of_run h
  refine ⟨hstep.sublist, ?_, ?_, fun _ _ _ hfilter => filter_filter hfilter⟩
  · intro kept hkeep
    rw [← hzone] at hkeep
    exact hstep.eq_of_keep hkeep
  · intro view hview hfiltered
    obtain ⟨hcards, hmark⟩ := galleryView_eq_some hview
    rw [hfiltered] at hmark
    have hall := hstep.visible_of_isDefault (by simpa using hmark)
    rw [hall, hzone] at hcards
    exact ⟨hall, hcards⟩

theorem shown_eq_keep_after_sampleRun : ∃ outcomes w,
    (fresh "albums.json" Zone.utc).run sampleRun = some (outcomes, w) ∧
    w.gallery.visible.map (·.id) = ["1"] ∧
    w.gallery.visible.Sublist w.gallery.albums ∧
    (∀ kept, w.criteria.keep Zone.utc w.gallery.albums = some kept → kept = w.gallery.visible) ∧
    (∀ view, w.galleryView = some view → view.filtered = false →
      w.gallery.visible = w.gallery.albums ∧ w.gallery.albums.mapM (·.card Zone.utc) = some view.cards) ∧
    (∀ c view w', w.filter c = some (view, w') → ∀ c', w'.filter c' = w.filter c') := by
  have hrun : ∃ outcomes w, (fresh "albums.json" Zone.utc).run sampleRun = some (outcomes, w) ∧
    w.gallery.visible.map (·.id) = ["1"] := ⟨_, _, rfl, rfl⟩
  obtain ⟨outcomes, w, hrun, hshown⟩ := hrun
  exact ⟨outcomes, w, hrun, hshown, shown_eq_keep hrun⟩

end AlbumBrowser.Viewer
