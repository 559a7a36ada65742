import AlbumBrowser.Proofs.Gallery.Stepping
import AlbumBrowser.Proofs.Viewer.Stops

/-!
Steps on and back, taken in a gallery and in a viewer. They change the place in the open album and nothing else. A
viewer takes every step, for what is open can be shown, and it can be shown at every place.
-/

namespace AlbumBrowser

variable {turns : List Turn}

namespace Gallery

variable {g : Gallery} {o : OpenAlbum}

def Operation.ofTurn : Turn → Operation
  | .on => .next
  | .back => .prev

theorem Operation.stays_ofTurn (turn : Turn) : (Operation.ofTurn turn).stays = true := by
  cases turn <;> rfl

theorem run_turns_of_opened (ho : g.opened = some o) (turns : List Turn) :
    g.run (turns.map Operation.ofTurn) = { g with opened := some (turns.foldl OpenAlbum.turned o) } := by
  induction turns generalizing g o with
  | nil =>
      rw [List.foldl_nil, ← ho]
      rfl
  | cons turn turns ih =>
      have hturn : g.perform (.ofTurn turn) = { g with opened := some (o.turned turn) } := by
        cases turn <;> simp [perform, Operation.ofTurn, Gallery.next, Gallery.prev, OpenAlbum.turned, ho]
      change (g.perform (.ofTurn turn)).run (turns.map Operation.ofTurn) = _
      rw [hturn, ih rfl]
      rfl

theorem run_turns_of_closed (ho : g.opened = none) (turns : List Turn) : g.run (turns.map Operation.ofTurn) = g := by
  induction turns with
  | nil => rfl
  | cons turn turns ih =>
      change (g.perform (.ofTurn turn)).run (turns.map Operation.ofTurn) = _
      rw [perform_of_closed (Operation.stays_ofTurn turn) ho, ih]

/-- What is true of no steps is true of steps that lead nowhere. -/
theorem Sound.run_turns_of_dvd (hg : g.Sound) (hnet : (g.images.length : Int) ∣ Turn.net turns) :
    g.run (turns.map Operation.ofTurn) = g := by
  cases ho : g.opened with
  | none => exact run_turns_of_closed ho turns
  | some o =>
      have himages : g.images = o.images := by rw [images, ho, Option.map_some, Option.getD_some]
      rw [himages] at hnet
      rw [run_turns_of_opened ho, (hg o ho).foldl_turned_of_dvd hnet, ← ho]

theorem run_turns_of_not (ho : g.opened = some o) (h : ¬ o.Turns) (turns : List Turn) :
    g.run (turns.map Operation.ofTurn) = g := by
  rw [run_turns_of_opened ho, OpenAlbum.foldl_turned_of_not h, ← ho]

/-- Without an album or a folder there is nothing to step through. -/
theorem run_turns_of_unplaced (h : g.opened = none ∨ g.activeFolder = none) (turns : List Turn) :
    g.run (turns.map Operation.ofTurn) = g := by
  cases ho : g.opened with
  | none => exact run_turns_of_closed ho turns
  | some o =>
      have hfolder : o.folder = none := by
        rw [activeFolder, ho, Option.bind_some] at h
        exact h.resolve_left (Option.some_ne_none o)
      apply run_turns_of_not ho
      rintro ⟨hsome, -⟩
      rw [hfolder] at hsome
      cases hsome

/-- Steps among images lead to a place that only their numbers decide, and it can be reckoned in words. -/
theorem Sound.exists_place (hg : g.Sound) (ho : g.opened = some o) (h : o.Turns) (turns : List Turn) :
    ∃ place : Nat, (place : Int) = (o.cursor + turns.count .on - turns.count .back) % o.images.length ∧
      g.run (turns.map Operation.ofTurn) = { g with opened := some { o with cursor := place } } ∧
      ∀ size, 2 * o.images.length ≤ size →
        turns.foldlM (Turn.place? size o.images.length) o.cursor = some place := by
  have hcursor : o.cursor < o.images.length := (hg o ho).cursor_lt h.2
  refine ⟨turns.foldl (Turn.place o.images.length) o.cursor, ?_, ?_, ?_⟩
  · rw [Turn.foldl_place_eq hcursor, Turn.net, Int.add_sub_assoc]
  · rw [run_turns_of_opened ho, OpenAlbum.foldl_turned h]
  · intro size hsize
    exact Turn.foldlM_place?_eq_some hcursor hsize turns

end Gallery

namespace Viewer

variable {v w : Viewer} {source : String} {zone : ViewerZone} {ops : List Operation} {outcomes : List Outcome}

def Operation.ofTurn : Turn → Operation
  | .on => .next
  | .back => .prev

/-- A viewer takes a step as its gallery does. -/
theorem exists_step_turn (hv : v.albumView ≠ none) (turn : Turn) : ∃ view,
    v.step (.ofTurn turn) = some (.album view, { v with gallery := v.gallery.perform (.ofTurn turn) }) ∧
      (v.gallery.perform (.ofTurn turn)).albumView v.zone ≠ none := by
  have hshown : (v.gallery.perform (.ofTurn turn)).albumView v.zone ≠ none := fun hnone =>
    hv ((Gallery.albumView_perform_eq_none_iff (Gallery.Operation.stays_ofTurn turn)).mp hnone)
  obtain ⟨view, hview⟩ := Option.ne_none_iff_exists'.mp hshown
  have hbrowse : v.browse (·.perform (.ofTurn turn)) =
      some (view, { v with gallery := v.gallery.perform (.ofTurn turn) }) := by
    rw [browse_eq, hview, Option.map_some]
  refine ⟨view, ?_, hshown⟩
  cases turn with
  | on => exact congrArg (Option.map _) hbrowse
  | back => exact congrArg (Option.map _) hbrowse

theorem exists_run_turns (hv : v.albumView ≠ none) (turns : List Turn) : ∃ views, v.run (turns.map Operation.ofTurn) =
    some (views, { v with gallery := v.gallery.run (turns.map Gallery.Operation.ofTurn) }) := by
  induction turns generalizing v with
  | nil => exact ⟨[], rfl⟩
  | cons turn turns ih =>
      obtain ⟨view, hstep, hshown⟩ := exists_step_turn hv turn
      obtain ⟨views, hrun⟩ := ih (v := { v with gallery := v.gallery.perform (.ofTurn turn) }) hshown
      exact ⟨_, run_cons_eq_some_iff.mpr ⟨_, _, _, hstep, hrun, rfl⟩⟩

/-- Steps through the images of the chosen folder go round in a circle. After any steps, in any order, the cursor is as
far on as more of them went on than back, counted modulo the number of images. Nothing else has changed, and every sum
and difference on the way is a word if there are at least twice as many words as images. So the two kinds of steps undo
each other, and as many steps of one kind as there are images lead nowhere. Without an open album, a chosen folder or
images nothing changes at all. A viewer takes all steps, and they change its gallery in this way only. -/
theorem turns_go_round {g : Gallery} (hg : g.Reached) (turns : List Turn) :
    (∀ o key, g.opened = some o → o.folder = some key →
      ∃ f, o.album.folder? key = some f ∧ o.images = o.album.folderImages f ∧
        (o.images ≠ [] → ∃ place : Nat,
          (place : Int) = (o.cursor + turns.count .on - turns.count .back) % o.images.length ∧
          g.run (turns.map .ofTurn) = { g with opened := some { o with cursor := place } } ∧
          ∀ size, 2 * o.images.length ≤ size →
            turns.foldlM (Turn.place? size o.images.length) o.cursor = some place) ∧
        (o.images = [] → g.run (turns.map .ofTurn) = g)) ∧
    (g.opened = none ∨ g.activeFolder = none → g.run (turns.map .ofTurn) = g) ∧
    g.next.prev = g ∧ g.prev.next = g ∧
    (∀ turn, g.run (List.replicate g.images.length (.ofTurn turn)) = g) ∧
    ∀ source zone ops outcomes w, (fresh source zone).run ops = some (outcomes, w) →
      ∃ views, w.run (turns.map .ofTurn) =
        some (views, { w with gallery := w.gallery.run (turns.map .ofTurn) }) := by
  have hsound := hg.sound
  refine ⟨?_, ?_, ?_, ?_, ?_, ?_⟩
  · intro o key ho hkey
    obtain ⟨f, hf, himages⟩ := (hsound o ho).images_of_some key hkey
    refine ⟨f, hf, himages, ?_, ?_⟩
    · intro hne
      exact hsound.exists_place ho ⟨by rw [hkey]; rfl, hne⟩ turns
    · intro hnil
      exact Gallery.run_turns_of_not ho (fun h => h.2 hnil) turns
  · intro hunplaced
    exact Gallery.run_turns_of_unplaced hunplaced turns
  · have hnet : (g.images.length : Int) ∣ Turn.net [.on, .back] := Int.dvd_zero _
    exact hsound.run_turns_of_dvd hnet
  · have hnet : (g.images.length : Int) ∣ Turn.net [.back, .on] := Int.dvd_zero _
    exact hsound.run_turns_of_dvd hnet
  · intro turn
    rw [← List.map_replicate]
    apply hsound.run_turns_of_dvd
    rw [Turn.net_replicate]
    exact Int.dvd_mul_right _ _
  · intro source zone ops outcomes w hrun
    exact exists_run_turns (albumView_ne_none_of_run hrun) turns

theorem turns_go_round_after_sampleRun : ∃ outcomes w,
    (fresh "albums.json" Zone.utc).run sampleRun = some (outcomes, w) ∧
    w.gallery.activeFolder = some "cara" ∧ w.gallery.images.length = 2 ∧ w.gallery.cursor = 1 ∧
    (w.gallery.run ([.on, .back, .back].map .ofTurn)).cursor = 0 ∧
    [.on, .back, .back].foldlM (Turn.place? 4 2) 1 = some 0 ∧
    w.gallery.run (List.replicate 2 (.ofTurn .back)) = w.gallery ∧
    ∃ views, w.run ([.on, .back, .back].map .ofTurn) =
      some (views, { w with gallery := w.gallery.run ([.on, .back, .back].map .ofTurn) }) := by
  have hrun : ∃ outcomes w o, (fresh "albums.json" Zone.utc).run sampleRun = some (outcomes, w) ∧
      w.gallery.opened = some o ∧ o.folder = some "cara" ∧ o.images = ["p/cara/1.jpg", "p/cara/2.jpg"] ∧
      o.cursor = 1 := ⟨_, _, _, rfl, rfl, rfl, rfl, rfl⟩
  obtain ⟨outcomes, w, o, hrun, ho, hfolder, himages, hcursor⟩ := hrun
  obtain ⟨hplaces, -, -, -, hround, hviewer⟩ := turns_go_round (reached_of_run hrun) [.on, .back, .back]
  obtain ⟨f, -, -, hplace, -⟩ := hplaces o "cara" ho hfolder
  obtain ⟨place, hnet, hplaced, hwords⟩ := hplace (by rw [himages]; exact List.cons_ne_nil _ _)
  have hall : w.gallery.images = ["p/cara/1.jpg", "p/cara/2.jpg"] := by
    rw [Gallery.images, ho, Option.map_some, Option.getD_some, himages]
  have hfirst : place = 0 := by
    rw [hcursor, himages] at hnet
    exact Int.ofNat_inj.mp hnet
  refine ⟨outcomes, w, hrun, ?_, ?_, ?_, ?_, ?_, ?_, hviewer _ _ _ _ _ hrun⟩
  · rw [Gallery.activeFolder, ho, Option.bind_some, hfolder]
  · rw [hall]
    rfl
  · rw [Gallery.cursor, ho, Option.map_some, Option.getD_some, hcursor]
  · rw [hplaced]
    exact hfirst
  · rw [← hfirst, ← hwords 4 (by rw [himages]; decide), himages, hcursor]
    rfl
  · have hback := hround .back
    rwa [hall] at hback

end Viewer

end AlbumBrowser
