import AlbumBrowser.Proofs.Filter.Admission
import AlbumBrowser.Proofs.Gallery.Browsing
import Mathlib.Logic.Relation

/-!
What an operation can do to a viewer, said once. A viewer changes in four ways: a ticket is taken, a list is
installed, a filter is put in force, the open album is browsed. Every operation comes down to such
changes, and to those of its own concern only. What all changes keep holds at the end of every run.
-/

namespace AlbumBrowser.Viewer

variable {source : String} {zone : ViewerZone} {v w : Viewer} {ops : List Operation} {outcomes : List Outcome}

/-- The part of a viewer that an operation is about. -/
inductive Concern where
  | loading
  | filtering
  | browsing
  deriving DecidableEq

def Operation.concern : Operation → Concern
  | .load _ | .beginLoad | .finishLoad _ _ => .loading
  | .filter _ | .resetFilter | .galleryView | .criteria => .filtering
  | .openAlbum _ | .selectFolder _ | .next | .prev | .close | .albumView => .browsing

/-- The ways in which a viewer changes. -/
inductive Change (v : Viewer) : Concern → Viewer → Prop where
  | issued : Change v .loading { v with issued := v.issued + 1 }
  /-- A list arrives with a later ticket than that of the list in place. -/
  | installed (ticket : Nat) (albums : List Album) (hnew : v.applied < ticket) : Change v .loading
      { v with gallery := v.gallery.replace albums, criteria := Criteria.anything, applied := ticket }
  | filtered (c : Criteria) (visible : List Album) (hkeep : c.keep v.zone v.gallery.albums = some visible) :
      Change v .filtering { v with gallery := v.gallery.setVisible visible, criteria := c }
  /-- The open album is browsed, and what is open then can be shown. -/
  | browsed (op : Gallery.Operation) (hop : op.browses = true)
      (hview : (v.gallery.perform op).albumView v.zone ≠ none) :
      Change v .browsing { v with gallery := v.gallery.perform op }

/-- Any number of changes of one concern, one after the other. -/
def Changes (k : Concern) : Viewer → Viewer → Prop := Relation.ReflTransGen fun v w => Change v k w

theorem Changes.refl {k : Concern} (v : Viewer) : Changes k v v := Relation.ReflTransGen.refl

theorem Change.changes {k : Concern} (h : Change v k w) : Changes k v w := Relation.ReflTransGen.single h

/-- What every change keeps, changes keep together. -/
theorem Changes.invariant {P : Viewer → Prop} {k : Concern} (hstep : ∀ v w, Change v k w → P v → P w)
    (h : Changes k v w) (hv : P v) : P w := by
  induction h with
  | refl => exact hv
  | tail _ hchange ih => exact hstep _ _ hchange ih

/-! ### Operations -/

theorem finishLoad_stale {ticket : Nat} (h : ticket ≤ v.applied) (albums : List Album) :
    v.finishLoad ticket (.ok albums) = (.ok .stale, v) := if_pos h

theorem finishLoad_newer {ticket : Nat} (h : v.applied < ticket) (albums : List Album) :
    v.finishLoad ticket (.ok albums) = (.ok (.applied albums.length),
      { v with gallery := v.gallery.replace albums, criteria := Criteria.anything, applied := ticket }) :=
  if_neg (Nat.not_le_of_lt h)

/-- A load that ends either says that it was applied, and then its list is in place, or changes nothing. -/
theorem finishLoad_cases (v : Viewer) (ticket : Nat) (fetched : Fetched) :
    ((∀ count, (v.finishLoad ticket fetched).1 ≠ .ok (.applied count)) ∧
      (v.finishLoad ticket fetched).2 = v) ∨
    ∃ albums, fetched = .ok albums ∧ v.applied < ticket ∧
      v.finishLoad ticket fetched = (.ok (.applied albums.length),
        { v with gallery := v.gallery.replace albums, criteria := Criteria.anything, applied := ticket }) := by
  cases fetched with
  | error e =>
      refine Or.inl ⟨?_, rfl⟩
      intro count h
      cases h
  | ok albums =>
      rcases Nat.lt_or_ge v.applied ticket with hnew | hold
      · exact Or.inr ⟨albums, rfl, hnew, finishLoad_newer hnew albums⟩
      · rw [finishLoad_stale hold]
        refine Or.inl ⟨?_, rfl⟩
        intro count h
        cases h

theorem finishLoad_changes (v : Viewer) (ticket : Nat) (fetched : Fetched) :
    Changes .loading v (v.finishLoad ticket fetched).2 := by
  rcases v.finishLoad_cases ticket fetched with ⟨-, hsame⟩ | ⟨albums, -, hnew, hload⟩
  · rw [hsame]
    exact Changes.refl v
  · rw [hload]
    exact (Change.installed ticket albums hnew).changes

theorem browse_eq (v : Viewer) (change : Gallery → Gallery) :
    v.browse change = ((change v.gallery).albumView v.zone).map fun view =>
      (view, { v with gallery := change v.gallery }) := by
  show ((change v.gallery).albumView v.zone).bind _ = _
  cases (change v.gallery).albumView v.zone <;> rfl

theorem browse_changes {view : Option AlbumView} (op : Gallery.Operation) (hop : op.browses = true)
    (h : v.browse (·.perform op) = some (view, w)) : Changes .browsing v w := by
  rw [browse_eq] at h
  obtain ⟨shown, hview, heq⟩ := Option.map_eq_some_iff.mp h
  cases heq
  exact (Change.browsed op hop (Option.ne_none_iff_exists'.mpr ⟨view, hview⟩)).changes

theorem filter_changes {c : Criteria} {view : GalleryView} (h : v.filter c = some (view, w)) :
    Changes .filtering v w := by
  rw [filter_eq] at h
  obtain ⟨visible, hkeep, hview⟩ := Option.bind_eq_some_iff.mp h
  obtain ⟨shown, -, heq⟩ := Option.map_eq_some_iff.mp hview
  cases heq
  exact (Change.filtered c visible hkeep).changes

/-- An operation changes a viewer in the ways of its own concern only. -/
theorem step_changes {op : Operation} {outcome : Outcome} (h : v.step op = some (outcome, w)) :
    Changes op.concern v w := by
  cases op with
  | load fetched =>
      cases h
      exact (Change.issued).changes.trans (finishLoad_changes _ _ fetched)
  | beginLoad =>
      cases h
      exact (Change.issued).changes
  | finishLoad ticket fetched =>
      cases h
      exact finishLoad_changes v ticket fetched
  | filter c | resetFilter =>
      obtain ⟨⟨view, u⟩, hfilter, heq⟩ := Option.map_eq_some_iff.mp h
      cases heq
      exact filter_changes hfilter
  | galleryView | albumView =>
      obtain ⟨view, -, heq⟩ := Option.map_eq_some_iff.mp h
      cases heq
      exact Changes.refl v
  | criteria =>
      cases h
      exact Changes.refl v
  | openAlbum id =>
      obtain ⟨⟨view, u⟩, hopen, heq⟩ := Option.map_eq_some_iff.mp h
      cases heq
      unfold openAlbum at hopen
      split at hopen
      · rename_i a _
        exact browse_changes (.openAlbum a) rfl hopen
      · cases hopen
        exact Changes.refl v
  | selectFolder key =>
      obtain ⟨⟨view, u⟩, hselect, heq⟩ := Option.map_eq_some_iff.mp h
      cases heq
      exact browse_changes (.select key) rfl hselect
  | next =>
      obtain ⟨⟨view, u⟩, hnext, heq⟩ := Option.map_eq_some_iff.mp h
      cases heq
      exact browse_changes .next rfl hnext
  | prev =>
      obtain ⟨⟨view, u⟩, hprev, heq⟩ := Option.map_eq_some_iff.mp h
      cases heq
      exact browse_changes .prev rfl hprev
  | close =>
      cases h
      exact (Change.browsed .close rfl (Option.some_ne_none none)).changes

/-! ### Runs -/

theorem run_cons_eq_some_iff {op : Operation} :
    v.run (op :: ops) = some (outcomes, w) ↔ ∃ outcome u rest,
      v.step op = some (outcome, u) ∧ u.run ops = some (rest, w) ∧ outcomes = outcome :: rest := by
  simp only [run, Option.bind_eq_bind, Option.bind_eq_some_iff, Prod.exists, Option.pure_def, Option.some.injEq,
    Prod.mk.injEq]
  constructor
  · rintro ⟨outcome, u, hstep, rest, w', hrun, rfl, rfl⟩
    exact ⟨outcome, u, rest, hstep, hrun, rfl⟩
  · rintro ⟨outcome, u, rest, hstep, hrun, rfl⟩
    exact ⟨outcome, u, hstep, rest, w, hrun, rfl, rfl⟩

theorem run_concat {u : Viewer} {op : Operation} {outcome : Outcome} (h : v.run ops = some (outcomes, u))
    (hstep : u.step op = some (outcome, w)) : v.run (ops ++ [op]) = some (outcomes ++ [outcome], w) := by
  induction ops generalizing v outcomes with
  | nil =>
      cases h
      exact run_cons_eq_some_iff.mpr ⟨outcome, w, [], hstep, rfl, rfl⟩
  | cons first ops ih =>
      obtain ⟨before, u', rest, hfirst, hrest, rfl⟩ := run_cons_eq_some_iff.mp h
      exact run_cons_eq_some_iff.mpr ⟨before, u', _, hfirst, ih hrest, rfl⟩

theorem length_of_run (h : v.run ops = some (outcomes, w)) : outcomes.length = ops.length := by
  induction ops generalizing v outcomes with
  | nil =>
      cases h
      rfl
  | cons op ops ih =>
      obtain ⟨outcome, u, rest, -, hrun, rfl⟩ := run_cons_eq_some_iff.mp h
      rw [List.length_cons, ih hrun, List.length_cons]

/-- A viewer that has not been asked for anything yet. -/
def fresh (source : String) (zone : ViewerZone) : Viewer := { source := source, zone := zone }

/-- What every change keeps holds after a run if it holds before. -/
theorem run_invariant {P : Viewer → Prop} (hstep : ∀ k v w, Change v k w → P v → P w)
    (h : v.run ops = some (outcomes, w)) (hv : P v) : P w := by
  induction ops generalizing v outcomes with
  | nil =>
      cases h
      exact hv
  | cons op ops ih =>
      obtain ⟨outcome, u, rest, hop, hrun, -⟩ := run_cons_eq_some_iff.mp h
      apply ih hrun
      exact (step_changes hop).invariant (hstep op.concern) hv

theorem source_of_run (h : (fresh source zone).run ops = some (outcomes, w)) : w.source = source := by
  refine run_invariant (P := fun v => v.source = source) ?_ h rfl
  intro k v w hchange hsource
  cases hchange <;> exact hsource

theorem zone_of_run (h : (fresh source zone).run ops = some (outcomes, w)) : w.zone = zone := by
  refine run_invariant (P := fun v => v.zone = zone) ?_ h rfl
  intro k v w hchange hzone
  cases hchange <;> exact hzone

theorem Change.reached {k : Concern} (h : Change v k w) (hv : v.gallery.Reached) : w.gallery.Reached := by
  cases h with
  | issued => exact hv
  | installed ticket albums => exact hv.perform (.replace albums)
  | filtered c visible => exact hv.perform (.setVisible visible)
  | browsed op => exact hv.perform op

/-- Whatever is done to a viewer, its gallery has seen gallery operations only. -/
theorem reached_of_run (h : (fresh source zone).run ops = some (outcomes, w)) : w.gallery.Reached :=
  run_invariant (fun _ _ _ hchange => hchange.reached) h Gallery.reached_empty

/-- Two loads of which the earlier comes too late, a filter by day, and a look into a folder of an album that
the filter hides. -/
def sampleRun : List Operation :=
  [.beginLoad, .beginLoad,
    .finishLoad 2 (.ok [⟨"1", some (.wallClock ⟨1704099600, 0⟩), none, [], []⟩,
      ⟨"2", none, none, [⟨"cara", "p/cara"⟩], ["p/cara/1.jpg", "p/cuerpo/1.jpg", "p/cara/2.jpg"]⟩]),
    .finishLoad 1 (.ok []), .filter { date := "2024-01-01" }, .openAlbum "2", .selectFolder "cara", .next]

end AlbumBrowser.Viewer
