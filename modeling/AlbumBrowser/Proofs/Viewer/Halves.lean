import AlbumBrowser.Proofs.Viewer.Stops

/-!
The two halves of a viewer. Loads and filters make up the gallery, opening and stepping the open album, and
neither half can be told from the other. A run without the operations of one half is a run of the viewer
that has forgotten what they changed: with the album closed, or with every loaded album shown under the open
criteria. Forgetting commutes with every operation that is kept, so the shorter run goes through as the
longer one does and what the kept half gives back is the same.
-/

namespace AlbumBrowser.Viewer

variable {source : String} {zone : ViewerZone} {v w : Viewer} {ops : List Operation} {outcomes : List Outcome}

/-- The operations that change what is open. -/
def Operation.movesAlbum : Operation → Bool
  | .openAlbum _ | .selectFolder _ | .next | .prev | .close => true
  | _ => false

/-- The operations that put criteria in force. -/
def Operation.setsFilter : Operation → Bool
  | .filter _ | .resetFilter => true
  | _ => false

/-- The outcomes of those operations of a run that a test picks out, in their order. -/
def outcomesOf (test : Operation → Bool) (ops : List Operation) (outcomes : List Outcome) : List Outcome :=
  ((ops.zip outcomes).filter fun p => test p.1).map Prod.snd

theorem outcomesOf_cons (test : Operation → Bool) (op : Operation) (ops : List Operation) (outcome : Outcome)
    (outcomes : List Outcome) : outcomesOf test (op :: ops) (outcome :: outcomes) =
      if test op then outcome :: outcomesOf test ops outcomes else outcomesOf test ops outcomes := by
  unfold outcomesOf
  rw [List.zip_cons_cons, List.filter_cons]
  split <;> rfl

/-- Some operations can be dropped: a viewer that has forgotten what they change takes the others as before,
and those that are compared give the same back. -/
structure Forgets (inv : Viewer → Prop) (image : Viewer → Viewer) (kept compared : Operation → Bool) : Prop where
  inv_step : ∀ {v w op outcome}, inv v → v.step op = some (outcome, w) → inv w
  dropped : ∀ {v w op outcome}, kept op = false → v.step op = some (outcome, w) → image w = image v
  step : ∀ {v w op outcome}, inv v → kept op = true → v.step op = some (outcome, w) →
    ∃ outcome', (image v).step op = some (outcome', image w) ∧ (compared op = true → outcome' = outcome)
  kept_of_compared : ∀ {op}, compared op = true → kept op = true

/-- Without the dropped operations a run goes through as well, to what is left of its end, and with the same
outcomes. -/
theorem Forgets.run {inv : Viewer → Prop} {image : Viewer → Viewer} {kept compared : Operation → Bool}
    (hf : Forgets inv image kept compared) (hv : inv v) (h : v.run ops = some (outcomes, w)) :
    ∃ outcomes', (image v).run (ops.filter kept) = some (outcomes', image w) ∧
      outcomesOf compared (ops.filter kept) outcomes' = outcomesOf compared ops outcomes := by
  induction ops generalizing v outcomes with
  | nil =>
      cases h
      exact ⟨[], rfl, rfl⟩
  | cons op ops ih =>
      obtain ⟨outcome, u, rest, hop, hrun, rfl⟩ := run_cons_eq_some_iff.mp h
      obtain ⟨rest', hrest, hsame⟩ := ih (hf.inv_step hv hop) hrun
      cases hkept : kept op with
      | false =>
          have hcompared : ¬ compared op = true := by
            intro hc
            rw [hf.kept_of_compared hc] at hkept
            cases hkept
          refine ⟨rest', ?_, ?_⟩
          · rw [List.filter_cons_of_neg (by simp [hkept]), ← hf.dropped hkept hop]
            exact hrest
          · rw [List.filter_cons_of_neg (by simp [hkept]), outcomesOf_cons, if_neg hcompared]
            exact hsame
      | true =>
          obtain ⟨outcome', hstep, heq⟩ := hf.step hv hkept hop
          refine ⟨outcome' :: rest', ?_, ?_⟩
          · rw [List.filter_cons_of_pos hkept]
            exact run_cons_eq_some_iff.mpr ⟨outcome', image u, rest', hstep, hrest, rfl⟩
          · rw [List.filter_cons_of_pos hkept, outcomesOf_cons, outcomesOf_cons, hsame]
            split
            · rename_i hcompared
              rw [heq hcompared]
            · rfl

/-- Loading takes no notice of what is forgotten. -/
structure LoadsAlike (image : Viewer → Viewer) : Prop where
  albums : ∀ v, (image v).gallery.albums = v.gallery.albums
  applied : ∀ v, (image v).applied = v.applied
  issued : ∀ v, (image v).beginLoad = (v.beginLoad.1, image v.beginLoad.2)
  installed : ∀ v ticket albums,
    image { v with gallery := v.gallery.replace albums, criteria := Criteria.anything, applied := ticket } =
      { image v with
        gallery := (image v).gallery.replace albums, criteria := Criteria.anything, applied := ticket }

namespace LoadsAlike

variable {image : Viewer → Viewer}

theorem finishLoad (hi : LoadsAlike image) (v : Viewer) (ticket : Nat) (fetched : Fetched) :
    (image v).finishLoad ticket fetched = ((v.finishLoad ticket fetched).1, image (v.finishLoad ticket fetched).2) := by
  cases fetched with
  | error e => rfl
  | ok albums =>
      rcases Nat.lt_or_ge v.applied ticket with hnew | hold
      · rw [finishLoad_newer hnew, finishLoad_newer (by rwa [hi.applied]), hi.installed]
      · rw [finishLoad_stale hold, finishLoad_stale (by rwa [hi.applied])]

theorem load (hi : LoadsAlike image) (v : Viewer) (fetched : Fetched) :
    (image v).load fetched = ((v.load fetched).1, image (v.load fetched).2) := by
  unfold Viewer.load reload
  rw [hi.issued]
  simp only [hi.finishLoad, hi.albums]

theorem step (hi : LoadsAlike image) {op : Operation} (hk : op.concern = .loading) (v : Viewer) :
    (image v).step op = (v.step op).map fun r => (r.1, image r.2) := by
  cases op with
  | load fetched =>
      change some (Outcome.loaded ((image v).load fetched).1, ((image v).load fetched).2) = _
      rw [hi.load]
      rfl
  | beginLoad =>
      change some (Outcome.ticket (image v).beginLoad.1, (image v).beginLoad.2) = _
      rw [hi.issued]
      rfl
  | finishLoad ticket fetched =>
      change some (Outcome.finished ((image v).finishLoad ticket fetched).1,
        ((image v).finishLoad ticket fetched).2) = _
      rw [hi.finishLoad]
      rfl
  | _ => cases hk

end LoadsAlike

/-! ### Without the album -/

theorem loadsAlike_close : LoadsAlike close := ⟨fun _ => rfl, fun _ => rfl, fun _ => rfl, fun _ _ _ => rfl⟩

theorem Change.close_eq (h : Change v .browsing w) : w.close = v.close := by
  cases h with
  | browsed op hop =>
      obtain ⟨halbums, hvisible⟩ := Gallery.lists_of_browses hop v.gallery
      simp only [close, Gallery.close, halbums, hvisible]

theorem filter_close (v : Viewer) (c : Criteria) :
    v.close.filter c = (v.filter c).map fun r => (r.1, r.2.close) := by
  rw [filter_eq, filter_eq]
  change (c.keep v.zone v.gallery.albums).bind _ = _
  cases c.keep v.zone v.gallery.albums with
  | none => rfl
  | some visible =>
      rw [Option.bind_some, Option.bind_some, Option.map_map]
      rfl

/-- An operation of the gallery gives the same back whether an album is open or not, and leaves it alone. -/
theorem step_close {op : Operation} (hk : op.concern ≠ .browsing) (v : Viewer) :
    v.close.step op = (v.step op).map fun r => (r.1, r.2.close) := by
  cases op with
  | load | beginLoad | finishLoad => exact loadsAlike_close.step rfl v
  | filter c | resetFilter =>
      refine (congrArg (Option.map _) (filter_close v _)).trans ?_
      simp only [step, resetFilter, Option.map_map]
      rfl
  | galleryView =>
      simp only [step, Option.map_map]
      rfl
  | criteria => rfl
  | _ => exact absurd rfl hk

theorem forgets_album : Forgets (fun _ => True) close (fun op => !op.movesAlbum)
    (fun op => op.concern ≠ .browsing) where
  inv_step _ _ := trivial
  dropped := by
    intro v w op outcome hdropped h
    have hk : op.concern = .browsing := by
      cases op with
      | openAlbum | selectFolder | next | prev | close => rfl
      | _ => cases hdropped
    have hchanges := step_changes h
    rw [hk] at hchanges
    exact hchanges.invariant (P := fun u => u.close = v.close) (fun _ _ hchange heq => hchange.close_eq.trans heq) rfl
  step := by
    intro v w op outcome _ hkept h
    by_cases hk : op.concern = .browsing
    · cases op with
      | albumView =>
          -- Nothing is open in the shorter run, and that can always be shown.
          obtain ⟨view, -, heq⟩ := Option.map_eq_some_iff.mp h
          cases heq
          exact ⟨.album none, rfl, fun hcompared => absurd hk (of_decide_eq_true hcompared)⟩
      | openAlbum | selectFolder | next | prev | close => cases hkept
      | _ => cases hk
    · refine ⟨outcome, ?_, fun _ => rfl⟩
      rw [step_close hk, h]
      rfl
  kept_of_compared := by
    intro op hcompared
    cases op with
    | openAlbum | selectFolder | next | prev | close => exact absurd rfl (of_decide_eq_true hcompared)
    | _ => rfl

/-! ### Without filters -/

/-- The viewer with all that is loaded shown under the open criteria. -/
def unfiltered (v : Viewer) : Viewer :=
  { v with gallery := v.gallery.setVisible v.gallery.albums, criteria := Criteria.anything }

theorem loadsAlike_unfiltered : LoadsAlike unfiltered :=
  ⟨fun _ => rfl, fun _ => rfl, fun _ => rfl, fun _ _ _ => rfl⟩

/-- All is shown, or all has passed the tests of a filter and can be placed. -/
def Showable (v : Viewer) : Prop :=
  v.gallery.visible = v.gallery.albums ∨ ∀ a ∈ v.gallery.albums, ¬ a.Beyond v.zone

theorem Change.showable {k : Concern} (h : Change v k w) (hv : v.Showable) : w.Showable := by
  cases h with
  | issued => exact hv
  | installed => exact Or.inl rfl
  | filtered c visible hkeep =>
      refine Or.inr ?_
      intro a ha hbeyond
      have hnone : c.keep v.zone v.gallery.albums = none := Criteria.keep_eq_none_iff.mpr ⟨a, ha, hbeyond⟩
      rw [hkeep] at hnone
      cases hnone
  | browsed op hop =>
      obtain ⟨halbums, hvisible⟩ := Gallery.lists_of_browses hop v.gallery
      unfold Showable
      rw [halbums, hvisible]
      exact hv

theorem Change.unfiltered_eq (h : Change v .filtering w) : w.unfiltered = v.unfiltered := by
  cases h
  rfl

theorem perform_setVisible {op : Gallery.Operation} (hop : op.browses = true) (g : Gallery) (visible : List Album) :
    (g.setVisible visible).perform op = (g.perform op).setVisible visible := by
  cases op with
  | replace | setVisible => cases hop
  | select key =>
      change ((g.setVisible visible).select? key).getD (g.setVisible visible) =
        ((g.select? key).getD g).setVisible visible
      unfold Gallery.select?
      change ((g.opened.bind (·.select? key)).map _).getD _ = _
      cases g.opened.bind (·.select? key) <;> rfl
  | _ => rfl

theorem browse_unfiltered (op : Gallery.Operation) (hop : op.browses = true) (v : Viewer) :
    v.unfiltered.browse (·.perform op) = (v.browse (·.perform op)).map fun r => (r.1, r.2.unfiltered) := by
  have hperform : v.unfiltered.gallery.perform op =
      (v.gallery.perform op).setVisible (v.gallery.perform op).albums := by
    rw [(Gallery.lists_of_browses hop v.gallery).1]
    exact perform_setVisible hop v.gallery v.gallery.albums
  rw [browse_eq, browse_eq, hperform, Option.map_map]
  rfl

/-- Loading and browsing give the same back whether a filter is in force or not, and leave it alone. -/
theorem step_unfiltered {op : Operation} (hk : op.concern ≠ .filtering) (v : Viewer) :
    v.unfiltered.step op = (v.step op).map fun r => (r.1, r.2.unfiltered) := by
  cases op with
  | load | beginLoad | finishLoad => exact loadsAlike_unfiltered.step rfl v
  | openAlbum id =>
      have hopen : v.unfiltered.openAlbum id = (v.openAlbum id).map fun r => (r.1, r.2.unfiltered) := by
        have hfind : v.unfiltered.gallery.find? id = v.gallery.find? id := rfl
        rw [openAlbum, openAlbum, hfind]
        cases v.gallery.find? id with
        | none => rfl
        | some a => exact browse_unfiltered (.openAlbum a) rfl v
      refine (congrArg (Option.map _) hopen).trans ?_
      simp only [step, Option.map_map]
      rfl
  | selectFolder key =>
      refine (congrArg (Option.map _) (browse_unfiltered (.select key) rfl v)).trans ?_
      simp only [step, selectFolder, Option.map_map]
      rfl
  | next =>
      refine (congrArg (Option.map _) (browse_unfiltered .next rfl v)).trans ?_
      simp only [step, next, Option.map_map]
      rfl
  | prev =>
      refine (congrArg (Option.map _) (browse_unfiltered .prev rfl v)).trans ?_
      simp only [step, prev, Option.map_map]
      rfl
  | close => rfl
  | albumView =>
      simp only [step, Option.map_map]
      rfl
  | _ => exact absurd rfl hk

theorem Showable.galleryView_ne_none (hv : v.Showable) (hview : v.galleryView ≠ none) :
    v.unfiltered.galleryView ≠ none := by
  unfold galleryView at *
  rw [ne_eq, Gallery.galleryView_eq_none_iff] at *
  rcases hv with hall | hplaced
  · rw [hall] at hview
    exact hview
  · rintro ⟨a, ha, hbeyond⟩
    exact hplaced a ha hbeyond

theorem forgets_filters : Forgets Showable unfiltered (fun op => !op.setsFilter)
    (fun op => op.concern ≠ .filtering) where
  inv_step hv h := (step_changes h).invariant (fun _ _ hchange => hchange.showable) hv
  dropped := by
    intro v w op outcome hdropped h
    have hk : op.concern = .filtering := by
      cases op with
      | filter | resetFilter => rfl
      | _ => cases hdropped
    have hchanges := step_changes h
    rw [hk] at hchanges
    exact hchanges.invariant (P := fun u => u.unfiltered = v.unfiltered)
      (fun _ _ hchange heq => hchange.unfiltered_eq.trans heq) rfl
  step := by
    intro v w op outcome hv hkept h
    by_cases hk : op.concern = .filtering
    · cases op with
      | galleryView =>
          -- More albums are shown than in the longer run, and there is a card for each of them.
          obtain ⟨view, hview, heq⟩ := Option.map_eq_some_iff.mp h
          cases heq
          obtain ⟨view', hview'⟩ := Option.ne_none_iff_exists'.mp
            (hv.galleryView_ne_none (Option.ne_none_iff_exists'.mpr ⟨view, hview⟩))
          refine ⟨.gallery view', Option.map_eq_some_iff.mpr ⟨view', hview', rfl⟩, ?_⟩
          exact fun hcompared => absurd hk (of_decide_eq_true hcompared)
      | criteria =>
          cases h
          exact ⟨_, rfl, fun hcompared => absurd hk (of_decide_eq_true hcompared)⟩
      | filter | resetFilter => cases hkept
      | _ => cases hk
    · refine ⟨outcome, ?_, fun _ => rfl⟩
      rw [step_unfiltered hk, h]
      rfl
  kept_of_compared := by
    intro op hcompared
    cases op with
    | filter | resetFilter => exact absurd rfl (of_decide_eq_true hcompared)
    | _ => rfl

/-- The gallery and the open album do not interfere. Without all that moves the album, a run goes through with
the same outcomes of its loads and filters and the same lists, criteria and tickets at its end; without
all that sets a filter, it goes through with the same outcomes of its loads and the same views of the
album, which is then open at the same place. -/
theorem halves_independent (h : (fresh source zone).run ops = some (outcomes, w)) :
    (∃ outcomes' w', (fresh source zone).run (ops.filter fun op => !op.movesAlbum) = some (outcomes', w') ∧
      outcomesOf (fun op => op.concern ≠ .browsing) (ops.filter fun op => !op.movesAlbum) outcomes' =
        outcomesOf (fun op => op.concern ≠ .browsing) ops outcomes ∧
      w'.gallery.albums = w.gallery.albums ∧ w'.gallery.visible = w.gallery.visible ∧ w'.criteria = w.criteria ∧
      w'.issued = w.issued ∧ w'.applied = w.applied) ∧
    ∃ outcomes' w', (fresh source zone).run (ops.filter fun op => !op.setsFilter) = some (outcomes', w') ∧
      outcomesOf (fun op => op.concern ≠ .filtering) (ops.filter fun op => !op.setsFilter) outcomes' =
        outcomesOf (fun op => op.concern ≠ .filtering) ops outcomes ∧
      w'.gallery.opened = w.gallery.opened ∧ w'.gallery.albums = w.gallery.albums ∧
      w'.issued = w.issued ∧ w'.applied = w.applied := by
  constructor
  · obtain ⟨outcomes', hrun, hsame⟩ := forgets_album.run trivial h
    exact ⟨outcomes', w.close, hrun, hsame, rfl, rfl, rfl, rfl, rfl⟩
  · obtain ⟨outcomes', hrun, hsame⟩ := forgets_filters.run (Or.inl rfl) h
    exact ⟨outcomes', w.unfiltered, hrun, hsame, rfl, rfl, rfl, rfl⟩

/-- In the sample the filter hides the very album that is then opened and stepped through. -/
theorem halves_independent_in_sampleRun : ∃ outcomes w,
    (fresh "albums.json" Zone.utc).run sampleRun = some (outcomes, w) ∧
    (w.gallery.visible.map (·.id) = ["1"] ∧ w.gallery.opened.map (fun o => (o.album.id, o.cursor)) = some ("2", 1)) ∧
    (∃ outcomes' w', (fresh "albums.json" Zone.utc).run (sampleRun.filter fun op => !op.movesAlbum) =
        some (outcomes', w') ∧
      outcomesOf (fun op => op.concern ≠ .browsing) (sampleRun.filter fun op => !op.movesAlbum) outcomes' =
        outcomesOf (fun op => op.concern ≠ .browsing) sampleRun outcomes ∧
      w'.gallery.albums = w.gallery.albums ∧ w'.gallery.visible = w.gallery.visible ∧ w'.criteria = w.criteria ∧
      w'.issued = w.issued ∧ w'.applied = w.applied) ∧
    ∃ outcomes' w', (fresh "albums.json" Zone.utc).run (sampleRun.filter fun op => !op.setsFilter) =
        some (outcomes', w') ∧
      outcomesOf (fun op => op.concern ≠ .filtering) (sampleRun.filter fun op => !op.setsFilter) outcomes' =
        outcomesOf (fun op => op.concern ≠ .filtering) sampleRun outcomes ∧
      w'.gallery.opened = w.gallery.opened ∧ w'.gallery.albums = w.gallery.albums ∧
      w'.issued = w.issued ∧ w'.applied = w.applied := by
  have hrun : ∃ outcomes w, (fresh "albums.json" Zone.utc).run sampleRun = some (outcomes, w) ∧
      (w.gallery.visible.map (·.id) = ["1"] ∧
        w.gallery.opened.map (fun o => (o.album.id, o.cursor)) = some ("2", 1)) := ⟨_, _, rfl, rfl, rfl⟩
  obtain ⟨outcomes, w, hrun, hend⟩ := hrun
  exact ⟨outcomes, w, hrun, hend, halves_independent hrun⟩

end AlbumBrowser.Viewer
