import AlbumBrowser.Proofs.Feed.Instants
import AlbumBrowser.Proofs.Filter.Beyond
import AlbumBrowser.Proofs.Viewer.Loads
import AlbumBrowser.Proofs.Viewer.Opened
import AlbumBrowser.Proofs.Viewer.Shown

/-!
Where a viewer stops. An operation has no outcome exactly when one of the albums that it must place has a
time that the zone's clock shows outside the kept years; all else goes on. An album is shown when it is
opened, so stepping through it never stops. Feeds name points of time inside the kept years only, and thus a
viewer at the zero meridian never stops, while in any other zone the last or first hours of the calendar
can be fatal.
-/

namespace AlbumBrowser

open Calendar

namespace Gallery

variable {g : Gallery}

/-- The operations that stay with the album that is open. -/
def Operation.stays : Operation → Bool
  | .select _ | .next | .prev => true
  | _ => false

/-- There is nothing to choose from and nothing to step through while no album is open. -/
theorem perform_of_closed {op : Operation} (hop : op.stays = true) (hclosed : g.opened = none) :
    g.perform op = g := by
  obtain ⟨albums, visible, opened⟩ := g
  cases hclosed
  cases op with
  | select | next | prev => rfl
  | _ => cases hop

theorem openedAlbum_perform {op : Operation} (hop : op.stays = true) :
    (g.perform op).opened.map (·.album) = g.opened.map (·.album) := by
  cases hopened : g.opened with
  | none => rw [perform_of_closed hop hopened, hopened]
  | some o =>
      cases op with
      | select key =>
          cases hselect : o.select? key with
          | none => simp [perform, select?, hopened, hselect]
          | some chosen =>
              obtain ⟨f, -, rfl⟩ := Option.map_eq_some_iff.mp hselect
              simp [perform, select?, hopened, hselect]
      | next => simp [perform, Gallery.next, OpenAlbum.next, hopened]
      | prev => simp [perform, Gallery.prev, OpenAlbum.prev, hopened]
      | _ => cases hop

theorem albumView_perform_eq_none_iff {zone : ViewerZone} {op : Operation} (hop : op.stays = true) :
    (g.perform op).albumView zone = none ↔ g.albumView zone = none := by
  have hiff : ∀ g : Gallery, g.albumView zone = none ↔ ∃ a, g.opened.map (·.album) = some a ∧ a.Beyond zone := by
    intro g
    rw [albumView_eq_none_iff]
    simp
  rw [hiff, hiff, openedAlbum_perform hop]

end Gallery

namespace Viewer

variable {source : String} {zone : ViewerZone} {v w : Viewer} {ops : List Operation} {outcomes : List Outcome}

/-- The albums whose times an operation has to show or to compare. -/
def Operation.places (v : Viewer) : Operation → List Album
  | .galleryView => v.gallery.visible
  | .filter _ | .resetFilter => v.gallery.albums
  | .openAlbum id => (v.gallery.find? id).toList
  | _ => []

theorem filter_eq_none_iff {c : Criteria} :
    v.filter c = none ↔ ∃ a ∈ v.gallery.albums, a.Beyond v.zone := by
  rw [filter_eq, ← Criteria.keep_eq_none_iff (c := c)]
  cases hkeep : c.keep v.zone v.gallery.albums with
  | none => simp
  | some kept =>
      rw [Option.bind_some, Option.map_eq_none_iff, Gallery.galleryView_eq_none_iff]
      refine iff_of_false ?_ (Option.some_ne_none kept)
      rintro ⟨a, ha, hbeyond⟩
      have hall := (Criteria.keep_sublist hkeep).subset ha
      have hnone := Criteria.keep_eq_none_iff (c := c).mpr ⟨a, hall, hbeyond⟩
      rw [hkeep] at hnone
      cases hnone

theorem browse_eq_none_iff {change : Gallery → Gallery} :
    v.browse change = none ↔ (change v.gallery).albumView v.zone = none := by
  rw [browse_eq, Option.map_eq_none_iff]

/-- An operation stops exactly when it has to place an album beyond the calendar. -/
theorem step_eq_none_iff (hv : v.albumView ≠ none) {op : Operation} :
    v.step op = none ↔ ∃ a ∈ op.places v, a.Beyond v.zone := by
  -- What is open can be shown, and stays so.
  have hstays : ∀ op : Gallery.Operation, op.stays = true → v.browse (·.perform op) ≠ none := by
    intro op hop
    rw [ne_eq, browse_eq_none_iff, Gallery.albumView_perform_eq_none_iff hop]
    exact hv
  cases op with
  | load | beginLoad | finishLoad | criteria | close =>
      exact iff_of_false (fun h => by cases h) (by simp [Operation.places])
  | filter c => exact Option.map_eq_none_iff.trans filter_eq_none_iff
  | resetFilter => exact Option.map_eq_none_iff.trans filter_eq_none_iff
  | galleryView => exact Option.map_eq_none_iff.trans Gallery.galleryView_eq_none_iff
  | openAlbum id =>
      refine Option.map_eq_none_iff.trans ?_
      rw [openAlbum, Operation.places]
      cases v.gallery.find? id with
      | none => simp
      | some a =>
          change v.browse (·.openAlbum a) = none ↔ _
          rw [browse_eq_none_iff, Gallery.albumView_eq_none_iff]
          simp [Gallery.openAlbum]
  | selectFolder key =>
      refine Option.map_eq_none_iff.trans (iff_of_false ?_ (by simp [Operation.places]))
      exact hstays (.select key) rfl
  | next =>
      refine Option.map_eq_none_iff.trans (iff_of_false ?_ (by simp [Operation.places]))
      exact hstays .next rfl
  | prev =>
      refine Option.map_eq_none_iff.trans (iff_of_false ?_ (by simp [Operation.places]))
      exact hstays .prev rfl
  | albumView =>
      exact Option.map_eq_none_iff.trans (iff_of_false hv (by simp [Operation.places]))

/-- The operations that stay with the album that is open. -/
def Operation.stays : Operation → Bool
  | .selectFolder _ | .next | .prev => true
  | _ => false

theorem step_ne_none_of_stays (hv : v.albumView ≠ none) {op : Operation} (hop : op.stays = true) :
    v.step op ≠ none := by
  rw [ne_eq, step_eq_none_iff hv]
  rintro ⟨a, ha, -⟩
  cases op with
  | selectFolder | next | prev => cases ha
  | _ => cases hop

/-! ### Runs -/

/-- The list that an operation brings. -/
def Operation.brings? : Operation → Option (List Album)
  | .load fetched | .finishLoad _ fetched => fetched.toOption
  | _ => none

/-- Every list that operations bring is written in one of some texts. -/
def FedWith (texts : Set String) (ops : List Operation) : Prop :=
  ∀ op ∈ ops, ∀ albums, op.brings? = some albums → ∃ text ∈ texts, Feed.parse text = .ok albums

theorem Changes.zone_eq {k : Concern} (h : Changes k v w) : w.zone = v.zone := by
  refine h.invariant (P := fun u => u.zone = v.zone) ?_ rfl
  intro u u' hchange hzone
  cases hchange <;> exact hzone

theorem albums_finishLoad (v : Viewer) (ticket : Nat) (fetched : Fetched) :
    (v.finishLoad ticket fetched).2.gallery.albums = v.gallery.albums ∨
      fetched.toOption = some (v.finishLoad ticket fetched).2.gallery.albums := by
  rcases v.finishLoad_cases ticket fetched with ⟨-, hsame⟩ | ⟨albums, rfl, -, hload⟩
  · exact Or.inl (by rw [hsame])
  · rw [hload]
    exact Or.inr rfl

/-- The loaded list is either kept or the one that the operation brings. -/
theorem albums_step {op : Operation} {outcome : Outcome} (h : v.step op = some (outcome, w)) :
    w.gallery.albums = v.gallery.albums ∨ op.brings? = some w.gallery.albums := by
  by_cases hk : op.concern = .loading
  · cases op with
    | load fetched =>
        cases h
        exact albums_finishLoad v.beginLoad.2 _ fetched
    | beginLoad =>
        cases h
        exact Or.inl rfl
    | finishLoad ticket fetched =>
        cases h
        exact albums_finishLoad v ticket fetched
    | _ => cases hk
  · exact Or.inl ((step_changes h).loads_eq hk).1

theorem mem_albums_of_places (hv : v.InStep) {op : Operation} {a : Album} (ha : a ∈ op.places v) :
    a ∈ v.gallery.albums := by
  cases op with
  | galleryView => exact hv.sublist.subset ha
  | filter | resetFilter => exact ha
  | openAlbum id => exact List.mem_of_find?_eq_some (Option.mem_toList.mp ha)
  | _ => cases ha

/-- What a run needs of a viewer to go on: the open album has a view, the shown albums are loaded ones, and
each of these can be placed. -/
structure Placed (v : Viewer) : Prop where
  opened : v.albumView ≠ none
  inStep : v.InStep
  albums : ∀ a ∈ v.gallery.albums, ¬ a.Beyond v.zone

theorem Placed.step_ne_none (hv : v.Placed) (op : Operation) : v.step op ≠ none := by
  rw [ne_eq, step_eq_none_iff hv.opened]
  rintro ⟨a, ha, hbeyond⟩
  exact hv.albums a (mem_albums_of_places hv.inStep ha) hbeyond

theorem Placed.step (hv : v.Placed) {op : Operation} {outcome : Outcome} (h : v.step op = some (outcome, w))
    (hbrings : ∀ albums, op.brings? = some albums → ∀ a ∈ albums, ¬ a.Beyond v.zone) : w.Placed where
  opened := (step_changes h).invariant (fun _ _ hchange => hchange.albumView_ne_none) hv.opened
  inStep := (step_changes h).invariant (fun _ _ hchange => hchange.inStep) hv.inStep
  albums := by
    rw [(step_changes h).zone_eq]
    rcases albums_step h with hsame | hbrought
    · rw [hsame]
      exact hv.albums
    · exact hbrings _ hbrought

theorem Placed.run_ne_none (hv : v.Placed)
    (hbrings : ∀ op ∈ ops, ∀ albums, op.brings? = some albums → ∀ a ∈ albums, ¬ a.Beyond v.zone) :
    v.run ops ≠ none := by
  induction ops generalizing v with
  | nil => exact Option.some_ne_none _
  | cons op ops ih =>
      obtain ⟨hop, hrest⟩ := List.forall_mem_cons.mp hbrings
      obtain ⟨⟨outcome, u⟩, hstep⟩ := Option.ne_none_iff_exists'.mp (hv.step_ne_none op)
      rw [← (step_changes hstep).zone_eq] at hrest
      obtain ⟨⟨outcomes, w⟩, hrun⟩ := Option.ne_none_iff_exists'.mp (ih (hv.step hstep hop) hrest)
      rw [run_cons_eq_some_iff.mpr ⟨outcome, u, outcomes, hstep, hrun, rfl⟩]
      exact Option.some_ne_none _

theorem placed_fresh (source : String) (zone : ViewerZone) : (fresh source zone).Placed where
  opened := Option.some_ne_none none
  inStep := Or.inl ⟨rfl, rfl⟩
  albums _ ha := absurd ha List.not_mem_nil

/-- A list with an album beyond the calendar stops the first look at it. -/
theorem run_load_galleryView_eq_none {albums : List Album} (h : ∃ a ∈ albums, a.Beyond zone) :
    (fresh source zone).run [.load (.ok albums), .galleryView] = none := by
  cases hrun : (fresh source zone).run [.load (.ok albums), .galleryView] with
  | none => rfl
  | some r =>
      obtain ⟨outcome, u, rest, hload, hrest, -⟩ := run_cons_eq_some_iff.mp hrun
      obtain ⟨outcome', u', rest', hview, -, -⟩ := run_cons_eq_some_iff.mp hrest
      have hshown : u.gallery.visible = albums ∧ u.zone = zone := by
        cases hload
        exact ⟨rfl, rfl⟩
      have hnone : u.step .galleryView = none := by
        refine Option.map_eq_none_iff.mpr (Gallery.galleryView_eq_none_iff.mpr ?_)
        rw [hshown.1, hshown.2]
        exact h
      rw [hview] at hnone
      cases hnone

theorem not_beyond_fixed_iff {a : Album} {zone : Zone} : ¬ a.Beyond zone ↔
    ∀ m, a.timestamp = some (.instant m) →
      Moment.firstSecond ≤ m.second + zone.offset ∧ m.second + zone.offset ≤ Moment.lastSecond := by
  rw [Album.Beyond, Timestamp.beyond_iff]
  constructor
  · intro h m hm
    exact Decidable.byContradiction fun hout => h ⟨m, hm, hout⟩
  · rintro h ⟨m, hm, hout⟩
    exact hout (h m hm)

/-- A viewer in a fixed zone goes on for ever exactly when the offset leads no point of time of its feeds out
of the kept years. At the zero meridian it always does. Whatever has happened before, an operation
stops exactly when one of the albums that it must place has such a time. -/
theorem stops_only_beyond_calendar (source : String) (zone : Zone) (texts : Set String) :
    ((∀ ops, FedWith texts ops → (fresh source zone).run ops ≠ none) ↔
      ∀ text ∈ texts, ∀ albums, Feed.parse text = .ok albums → ∀ a ∈ albums, ∀ m, a.timestamp = some (.instant m) →
        Moment.firstSecond ≤ m.second + zone.offset ∧ m.second + zone.offset ≤ Moment.lastSecond) ∧
    (zone.offset = 0 → ∀ ops, FedWith texts ops → (fresh source zone).run ops ≠ none) ∧
    ∀ ops outcomes w, (fresh source zone).run ops = some (outcomes, w) →
      ∀ op, w.step op = none ↔ ∃ a ∈ op.places w, a.Beyond zone := by
  have hgoes : ∀ ops, FedWith texts ops →
      (∀ text ∈ texts, ∀ albums, Feed.parse text = .ok albums → ∀ a ∈ albums, ¬ a.Beyond zone) →
      (fresh source zone).run ops ≠ none := by
    intro ops hfed hplaced
    refine (placed_fresh source zone).run_ne_none ?_
    intro op hop albums hbrings a ha
    obtain ⟨text, htext, hparse⟩ := hfed op hop albums hbrings
    exact hplaced text htext albums hparse a ha
  refine ⟨⟨?_, ?_⟩, ?_, ?_⟩
  · intro hruns text htext albums hparse a ha
    rw [← not_beyond_fixed_iff]
    intro hbeyond
    refine hruns [.load (.ok albums), .galleryView] ?_ (run_load_galleryView_eq_none ⟨a, ha, hbeyond⟩)
    intro op hop list hbrings
    rcases List.mem_cons.mp hop with rfl | hop
    · cases hbrings
      exact ⟨text, htext, hparse⟩
    · rw [List.mem_singleton.mp hop] at hbrings
      cases hbrings
  · intro hinside ops hfed
    refine hgoes ops hfed ?_
    intro text htext albums hparse a ha
    exact not_beyond_fixed_iff.mpr (hinside text htext albums hparse a ha)
  · intro hzero ops hfed
    refine hgoes ops hfed ?_
    intro text htext albums hparse a ha
    rw [not_beyond_fixed_iff, hzero]
    intro m hm
    rw [Int.add_zero]
    exact Feed.inCalendar_of_parse hparse ha hm
  · intro ops outcomes w hrun op
    rw [step_eq_none_iff (albumView_ne_none_of_run hrun), zone_of_run hrun]

/-- The first day of the calendar, which is midnight at the zero meridian, is the evening of a day before it in
a zone to the west: a feed and a zone that are both accepted stop the viewer at its first look. -/
theorem run_stops_before_first_day :
    Feed.parse "[\x7b\"ID\":1,\"fecha\":\"-262143-01-01\"\x7d]" =
      .ok [⟨"1", some (.instant ⟨-8334601228800, 0⟩), none, [], []⟩] ∧
    Zone.parse "-01:00" = some (.ok ⟨-3600, by decide, by decide⟩) ∧
    (fresh "script" (Zone.mk (-3600))).run
      [.load (.ok [⟨"1", some (.instant ⟨-8334601228800, 0⟩), none, [], []⟩]), .galleryView] = none := by
  refine ⟨by decide +kernel, by decide +kernel, run_load_galleryView_eq_none ?_⟩
  exact ⟨_, List.mem_singleton_self _, by decide +kernel⟩

end Viewer

end AlbumBrowser
