import AlbumBrowser.Proofs.Viewer.Stops

/-!
The albums that a viewer has at hand: those that are loaded and the one that is open. They come from lists that
operations have brought and from nowhere else, for an album is opened only out of the loaded list. So what
is true of every album that is ever brought is true of all that are at hand.
-/

namespace AlbumBrowser.Viewer

variable {source : String} {zone : ViewerZone} {v w : Viewer} {ops : List Operation} {outcomes : List Outcome}

theorem Changes.opened_eq {k : Concern} (hk : k ≠ .browsing) (h : Changes k v w) :
    w.gallery.opened = v.gallery.opened := by
  refine h.invariant (P := fun u => u.gallery.opened = v.gallery.opened) ?_ rfl
  intro u u' hchange hopened
  cases hchange with
  | browsed => exact absurd rfl hk
  | _ => exact hopened

theorem album_of_browse (op : Gallery.Operation) (hop : op.stays = true) {view : Option AlbumView}
    (h : v.browse (·.perform op) = some (view, w)) :
    w.gallery.opened.map (·.album) = v.gallery.opened.map (·.album) := by
  rw [browse_eq] at h
  obtain ⟨shown, -, heq⟩ := Option.map_eq_some_iff.mp h
  cases heq
  exact Gallery.openedAlbum_perform hop

/-- The album that is open after an operation was open before, or it was loaded. -/
theorem openedAlbum_step {op : Operation} {outcome : Outcome} (h : v.step op = some (outcome, w)) {a : Album}
    (ha : w.gallery.opened.map (·.album) = some a) :
    v.gallery.opened.map (·.album) = some a ∨ a ∈ v.gallery.albums := by
  by_cases hk : op.concern = .browsing
  · cases op with
    | openAlbum id =>
        obtain ⟨⟨view, u⟩, hopen, heq⟩ := Option.map_eq_some_iff.mp h
        cases heq
        unfold openAlbum at hopen
        split at hopen
        · rename_i found hfound
          rw [browse_eq] at hopen
          obtain ⟨shown, -, heq⟩ := Option.map_eq_some_iff.mp hopen
          cases heq
          cases ha
          exact Or.inr (List.mem_of_find?_eq_some hfound)
        · cases hopen
          exact Or.inl ha
    | selectFolder key =>
        obtain ⟨⟨view, u⟩, hselect, heq⟩ := Option.map_eq_some_iff.mp h
        cases heq
        exact Or.inl ((album_of_browse (.select key) rfl hselect).symm.trans ha)
    | next =>
        obtain ⟨⟨view, u⟩, hnext, heq⟩ := Option.map_eq_some_iff.mp h
        cases heq
        exact Or.inl ((album_of_browse .next rfl hnext).symm.trans ha)
    | prev =>
        obtain ⟨⟨view, u⟩, hprev, heq⟩ := Option.map_eq_some_iff.mp h
        cases heq
        exact Or.inl ((album_of_browse .prev rfl hprev).symm.trans ha)
    | close =>
        cases h
        cases ha
    | albumView =>
        obtain ⟨view, -, heq⟩ := Option.map_eq_some_iff.mp h
        cases heq
        exact Or.inl ha
    | _ => cases hk
  · rw [(step_changes h).opened_eq hk] at ha
    exact Or.inl ha

/-- A property of all albums that are at hand. -/
structure Holds (P : Album → Prop) (v : Viewer) : Prop where
  albums : ∀ a ∈ v.gallery.albums, P a
  opened : ∀ a, v.gallery.opened.map (·.album) = some a → P a

variable {P : Album → Prop}

theorem Holds.step (hv : v.Holds P) {op : Operation} {outcome : Outcome} (h : v.step op = some (outcome, w))
    (hbrings : ∀ albums, op.brings? = some albums → ∀ a ∈ albums, P a) : w.Holds P where
  albums := by
    rcases albums_step h with hsame | hbrought
    · rw [hsame]
      exact hv.albums
    · exact hbrings _ hbrought
  opened := by
    intro a ha
    rcases openedAlbum_step h ha with hopened | hloaded
    · exact hv.opened a hopened
    · exact hv.albums a hloaded

theorem Holds.run (hv : v.Holds P) (h : v.run ops = some (outcomes, w))
    (hbrings : ∀ op ∈ ops, ∀ albums, op.brings? = some albums → ∀ a ∈ albums, P a) : w.Holds P := by
  induction ops generalizing v outcomes with
  | nil =>
      cases h
      exact hv
  | cons op ops ih =>
      obtain ⟨hop, hrest⟩ := List.forall_mem_cons.mp hbrings
      obtain ⟨outcome, u, rest, hstep, hrun, -⟩ := run_cons_eq_some_iff.mp h
      exact ih (hv.step hstep hop) hrun hrest

theorem holds_fresh (source : String) (zone : ViewerZone) : (fresh source zone).Holds P where
  albums _ ha := absurd ha List.not_mem_nil
  opened _ ha := by cases ha

/-- With lists that texts write, all albums at hand are described by records. -/
theorem holds_of_run {texts : Set String} (h : (fresh source zone).run ops = some (outcomes, w))
    (hfed : FedWith texts ops) : w.Holds fun a => ∃ members, a = Album.ofMembers members := by
  refine (holds_fresh source zone).run h ?_
  intro op hop albums hbrings a ha
  obtain ⟨text, -, hparse⟩ := hfed op hop albums hbrings
  exact Feed.mem_of_parse hparse ha

/-- A gallery that can be shown has no loaded album beyond the calendar, shown or not: either all are shown, or
a filter has placed them all. -/
theorem InStep.not_beyond (h : v.InStep) (hview : v.galleryView ≠ none) {a : Album} (ha : a ∈ v.gallery.albums) :
    ¬ a.Beyond v.zone := by
  intro hbeyond
  rcases h with ⟨-, hall⟩ | hshown
  · exact hview (Gallery.galleryView_eq_none_iff.mpr ⟨a, hall ▸ ha, hbeyond⟩)
  · have hnone := (Criteria.keep_eq_none_iff (c := v.criteria)).mpr ⟨a, ha, hbeyond⟩
    rw [hshown] at hnone
    cases hnone

end AlbumBrowser.Viewer
