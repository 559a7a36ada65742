import AlbumBrowser.Proofs.Viewer.Stops
import AlbumBrowser.Web.Server

/-!
What a request does to a server, said once. It leaves the server as it is, or takes one step of the viewer
and then succeeds, or is a reload whose fetch has failed. A step in the open album that shows none has
found nothing open and thus changed nothing; so a refusal loses nothing, although the answer is chosen
after the step.
-/

namespace AlbumBrowser

namespace Gallery

variable {g : Gallery} {op : Operation}

theorem opened_eq_none_of_perform (hop : op.stays = true) (h : (g.perform op).opened = none) : g.opened = none := by
  have halbum := openedAlbum_perform (g := g) hop
  rw [h] at halbum
  exact Option.map_eq_none_iff.mp halbum.symm

end Gallery

namespace Viewer

variable {v w : Viewer}

theorem browse_perform_none (op : Gallery.Operation) (hop : op.stays = true)
    (h : v.browse (·.perform op) = some (none, w)) : w = v := by
  rw [browse_eq] at h
  obtain ⟨view, hview, heq⟩ := Option.map_eq_some_iff.mp h
  cases heq
  have hclosed : (v.gallery.perform op).opened = none :=
    Gallery.phase_eq_closed_iff.mp (Gallery.albumView_eq_some_none_iff.mp hview)
  rw [Gallery.perform_of_closed hop (Gallery.opened_eq_none_of_perform hop hclosed)]

theorem openAlbum_none {id : String} (h : v.openAlbum id = some (none, w)) : w = v := by
  unfold openAlbum at h
  split at h
  · rename_i a _
    rw [browse_eq] at h
    obtain ⟨view, hview, heq⟩ := Option.map_eq_some_iff.mp h
    cases heq
    -- An album that has just been opened is not shown as none.
    obtain ⟨shown, -, hshown⟩ := Option.map_eq_some_iff.mp hview
    cases hshown
  · cases h
    rfl

/-- Only a fetch that has failed makes a load fail. -/
theorem eq_error_of_reload {fetched : Fetched} {e : LoadError} (h : (v.reload fetched).1 = .error e) :
    fetched = .error e := by
  cases fetched with
  | error =>
      cases h
      rfl
  | ok albums =>
      change (v.beginLoad.2.finishLoad v.beginLoad.1 (.ok albums)).1 = .error e at h
      rcases Nat.lt_or_ge v.beginLoad.2.applied v.beginLoad.1 with hnew | hold
      · rw [finishLoad_newer hnew] at h
        cases h
      · rw [finishLoad_stale hold] at h
        cases h

/-- An operation on the open album that shows none has changed nothing. -/
theorem step_album_none {op : Operation} (h : v.step op = some (.album none, w)) : w = v := by
  cases op with
  | openAlbum id =>
      obtain ⟨⟨view, u⟩, hopen, heq⟩ := Option.map_eq_some_iff.mp h
      cases heq
      exact openAlbum_none hopen
  | selectFolder key =>
      obtain ⟨⟨view, u⟩, hselect, heq⟩ := Option.map_eq_some_iff.mp h
      cases heq
      exact browse_perform_none (.select key) rfl hselect
  | next =>
      obtain ⟨⟨view, u⟩, hnext, heq⟩ := Option.map_eq_some_iff.mp h
      cases heq
      exact browse_perform_none .next rfl hnext
  | prev =>
      obtain ⟨⟨view, u⟩, hprev, heq⟩ := Option.map_eq_some_iff.mp h
      cases heq
      exact browse_perform_none .prev rfl hprev
  | albumView =>
      obtain ⟨view, -, heq⟩ := Option.map_eq_some_iff.mp h
      cases heq
      rfl
  | filter | resetFilter | galleryView =>
      obtain ⟨view, -, heq⟩ := Option.map_eq_some_iff.mp h
      cases heq
  | load | beginLoad | finishLoad | criteria | close => cases h

end Viewer

namespace Web.Server

variable {s s' : Server} {fetched : Fetched} {r : Request} {response : Response}

/-- The operations that requests make. Each is made in one go, and a load brings what was fetched for it. -/
def Makes (fetched : Fetched) : Viewer.Operation → Prop
  | .beginLoad | .finishLoad _ _ => False
  | .load brought => brought = fetched
  | _ => True

/-- The ways in which a request on a route is answered: the status, and the server afterwards. -/
inductive Answered (s : Server) (fetched : Fetched) (route : Route) : Nat → Server → Prop where
  | shown : Answered s fetched route 200 s
  | refused (status : Nat) (hstatus : status ∈ [400, 404, 405, 409]) : Answered s fetched route status s
  /-- The viewer has taken a step. -/
  | done (op : Viewer.Operation) {outcome : Viewer.Outcome} {v : Viewer} (hposts : route ∈ Route.posts.map (·.2))
      (hstep : s.viewer.step op = some (outcome, v)) (hmakes : Makes fetched op) :
      Answered s fetched route 200 { s with viewer := v }
  /-- The fetch of a reload has failed. -/
  | unfetched {e : LoadError} (hroute : route = .reload) (hfetched : fetched = .error e) :
      Answered s fetched route 502 { s with viewer := s.viewer.beginLoad.2 }

theorem answered_galleryAnswer (op : Viewer.Operation) {route : Route} (hposts : route ∈ Route.posts.map (·.2))
    (hmakes : Makes fetched op) {shown : Option (GalleryView × Viewer)}
    (hstep : s.viewer.step op = shown.map fun (view, v) => (.gallery view, v))
    (h : shown.map s.galleryAnswer = some (response, s')) : Answered s fetched route response.status s' := by
  obtain ⟨⟨view, v⟩, rfl, heq⟩ := Option.map_eq_some_iff.mp h
  cases heq
  exact Answered.done op hposts hstep hmakes

theorem answered_albumAnswer (op : Viewer.Operation) {route : Route} (hposts : route ∈ Route.posts.map (·.2))
    (hmakes : Makes fetched op) {shown : Option (Option AlbumView × Viewer)}
    (hstep : s.viewer.step op = shown.map fun (view, v) => (.album view, v))
    (h : shown.map s.albumAnswer = some (response, s')) : Answered s fetched route response.status s' := by
  obtain ⟨⟨view, v⟩, rfl, heq⟩ := Option.map_eq_some_iff.mp h
  cases view with
  | some view =>
      cases heq
      exact Answered.done op hposts hstep hmakes
  | none =>
      cases heq
      rw [Viewer.step_album_none hstep]
      exact Answered.refused 409 (by decide)

theorem postFilter_answered {body : ByteArray} (h : s.postFilter body = some (response, s')) :
    Answered s fetched .filter response.status s' := by
  unfold postFilter at h
  split at h
  · cases h
    exact Answered.refused 400 (by decide)
  · split at h
    · cases h
      exact Answered.refused 400 (by decide)
    · rename_i c _
      exact answered_galleryAnswer (.filter c) (by decide) trivial rfl h

theorem postReload_eq (s : Server) (fetched : Fetched) : s.postReload fetched =
    ((s.reload fetched).2.reloadAnswer (s.reload fetched).1).map fun answer => (answer, (s.reload fetched).2) := rfl

theorem postReload_answered (h : s.postReload fetched = some (response, s')) :
    Answered s fetched .reload response.status s' := by
  rw [postReload_eq] at h
  obtain ⟨answer, hanswer, heq⟩ := Option.map_eq_some_iff.mp h
  cases heq
  cases houtcome : (s.reload fetched).1 with
  | error e =>
      rw [houtcome] at hanswer
      cases hanswer
      cases Viewer.eq_error_of_reload houtcome
      exact Answered.unfetched rfl rfl
  | ok outcome =>
      rw [houtcome] at hanswer
      obtain ⟨view, -, rfl⟩ := Option.map_eq_some_iff.mp hanswer
      exact Answered.done (.load fetched) (by decide) rfl rfl

theorem postOpen_answered {q : Query} (h : s.postOpen q = some (response, s')) :
    Answered s fetched .openAlbum response.status s' := by
  unfold postOpen at h
  split at h
  · cases h
    exact Answered.refused 400 (by decide)
  · rename_i id _
    obtain ⟨⟨view, v⟩, hopen, heq⟩ := Option.map_eq_some_iff.mp h
    cases view with
    | some view =>
        cases heq
        exact Answered.done (.openAlbum id) (by decide) (Option.map_eq_some_iff.mpr ⟨_, hopen, rfl⟩) trivial
    | none =>
        cases heq
        rw [Viewer.openAlbum_none hopen]
        exact Answered.refused 404 (by decide)

theorem postFolder_answered {q : Query} (h : s.postFolder q = some (response, s')) :
    Answered s fetched .selectFolder response.status s' := by
  unfold postFolder at h
  split at h
  · cases h
    exact Answered.refused 400 (by decide)
  · rename_i key _
    obtain ⟨view, -, hanswer⟩ := Option.bind_eq_some_iff.mp h
    split at hanswer
    · cases hanswer
      exact Answered.refused 409 (by decide)
    · split at hanswer
      · obtain ⟨shown, hselect, heq⟩ := Option.bind_eq_some_iff.mp hanswer
        refine answered_albumAnswer (.selectFolder key) (by decide) trivial rfl ?_
        exact Option.map_eq_some_iff.mpr ⟨shown, hselect, Option.some.inj heq⟩
      · cases hanswer
        exact Answered.refused 404 (by decide)

theorem onRoute_answered {route : Route} (h : s.onRoute fetched r route = some (response, s')) :
    Answered s fetched route response.status s' := by
  cases route with
  | page | criteria =>
      cases h
      exact Answered.shown
  | gallery | album =>
      obtain ⟨view, -, heq⟩ := Option.map_eq_some_iff.mp h
      cases heq
      exact Answered.shown
  | filter => exact postFilter_answered h
  | resetFilter => exact answered_galleryAnswer .resetFilter (by decide) trivial rfl h
  | reload => exact postReload_answered h
  | openAlbum => exact postOpen_answered h
  | selectFolder => exact postFolder_answered h
  | next => exact answered_albumAnswer .next (by decide) trivial rfl h
  | prev => exact answered_albumAnswer .prev (by decide) trivial rfl h
  | close =>
      cases h
      exact Answered.done .close (by decide) rfl trivial
  | unknown =>
      cases h
      exact Answered.refused 404 (by decide)
  | refused =>
      cases h
      exact Answered.refused 405 (by decide)

/-- A `HEAD` asks for nothing that there is. -/
theorem not_head_of_route_ne_refused (h : r.route ≠ .refused) : r.method.toUpper ≠ "HEAD" := by
  intro hhead
  refine h ?_
  rw [Request.route, Route.of, hhead, if_neg (by decide), if_neg (by decide)]

theorem handle_of_not_head (h : r.method.toUpper ≠ "HEAD") :
    s.handle fetched r = s.onRoute fetched r r.route := by
  rw [handle]
  simp only [if_neg h]
  exact bind_pure _

/-- On every route but that of refusals the answer is that of the route. -/
theorem handle_eq_onRoute {route : Route} (hroute : r.route = route) (h : route ≠ .refused) :
    s.handle fetched r = s.onRoute fetched r route := by
  rw [← hroute] at h ⊢
  exact handle_of_not_head (not_head_of_route_ne_refused h)

/-- A `HEAD` hides the body of an answer, but not its status. -/
theorem handle_answered (h : s.handle fetched r = some (response, s')) :
    Answered s fetched r.route response.status s' := by
  obtain ⟨⟨answer, after⟩, hroute, heq⟩ := Option.bind_eq_some_iff.mp h
  obtain ⟨hresponse, rfl⟩ := Prod.mk.inj (Option.some.inj heq)
  have hstatus : response.status = answer.status := by
    rw [← hresponse]
    split <;> rfl
  rw [hstatus]
  exact onRoute_answered hroute

/-- The servers that requests lead to, with loads that overlap as they may. -/
def Reached (source : String) (zone : ViewerZone) (s : Server) : Prop :=
  s.page = Page.render source ∧ ∃ ops outcomes, (Viewer.fresh source zone).run ops = some (outcomes, s.viewer)

theorem reached_new {source : String} {zone : ViewerZone} {ops : List Viewer.Operation}
    {outcomes : List Viewer.Outcome} {v : Viewer} (h : (Viewer.fresh source zone).run ops = some (outcomes, v)) :
    (new v).Reached source zone :=
  ⟨congrArg Page.render (Viewer.source_of_run h), ops, outcomes, h⟩

theorem Reached.step {source : String} {zone : ViewerZone} (h : s.Reached source zone) (op : Viewer.Operation)
    {outcome : Viewer.Outcome} {v : Viewer} (hstep : s.viewer.step op = some (outcome, v)) :
    Reached source zone { s with viewer := v } := by
  obtain ⟨hpage, ops, outcomes, hrun⟩ := h
  exact ⟨hpage, ops ++ [op], outcomes ++ [outcome], Viewer.run_concat hrun hstep⟩

theorem Reached.handle {source : String} {zone : ViewerZone} (h : s.Reached source zone)
    (hhandle : s.handle fetched r = some (response, s')) : s'.Reached source zone := by
  have hanswered := handle_answered hhandle
  generalize response.status = status at hanswered
  cases hanswered with
  | shown | refused => exact h
  | done op _ hstep => exact h.step op hstep
  | unfetched => exact h.step .beginLoad rfl

/-- What can be got is not what can be done. -/
theorem not_mem_posts_of_get {method path : String} (h : method.toUpper = "GET") :
    Route.of method path ∉ Route.posts.map (·.2) := by
  rw [Route.of, if_pos h]
  cases hlookup : Route.gets.lookup path with
  | none => decide
  | some route =>
      have hall : ∀ entry ∈ Route.gets, entry.2 ∉ Route.posts.map (·.2) := by decide
      obtain ⟨before, after, hgets, -⟩ := List.lookup_eq_some_iff.mp hlookup
      exact hall (path, route) (by rw [hgets]; exact List.mem_append_right before List.mem_cons_self)

/-- A request that gets something, and one that is refused, leave the server as it was, whatever its state; a
reload whose fetch has failed has taken a ticket, and nothing more. -/
theorem unchanged_of_refused (h : s.handle fetched r = some (response, s'))
    (hr : r.method.toUpper = "GET" ∨ response.status ∈ [400, 404, 405, 409, 502]) :
    s' = s ∨
      response.status = 502 ∧ r.route = .reload ∧ (∃ e, fetched = .error e) ∧
        s' = { s with viewer := { s.viewer with issued := s.viewer.issued + 1 } } := by
  have hanswered := handle_answered h
  generalize response.status = status at hr hanswered ⊢
  cases hanswered with
  | shown | refused => exact Or.inl rfl
  | done op hposts hstep =>
      rcases hr with hget | hrefused
      · exact absurd hposts (not_mem_posts_of_get hget)
      · exact absurd hrefused (by decide)
  | unfetched hroute hfetched => exact Or.inr ⟨rfl, hroute, ⟨_, hfetched⟩, rfl⟩

/-- A reload that finds no feed, while an album is open. -/
theorem unchanged_of_failed_reload : ∃ outcomes w response s',
    (Viewer.fresh "albums.json" Zone.utc).run Viewer.sampleRun = some (outcomes, w) ∧
    (new w).handle (.error .notAList) ⟨"POST", "/api/reload", .empty⟩ = some (response, s') ∧
    response.status = 502 ∧
    (s' = new w ∨
      response.status = 502 ∧ (Request.mk "POST" "/api/reload" .empty).route = .reload ∧
        (∃ e, (.error .notAList : Fetched) = .error e) ∧
        s' = { new w with viewer := { w with issued := w.issued + 1 } }) := by
  have hroute : (Request.mk "POST" "/api/reload" .empty).route = .reload := by decide +kernel
  obtain ⟨outcomes, w, hrun⟩ : ∃ outcomes w,
    (Viewer.fresh "albums.json" Zone.utc).run Viewer.sampleRun = some (outcomes, w) := ⟨_, _, rfl⟩
  have hhandle : (new w).handle (.error .notAList) ⟨"POST", "/api/reload", .empty⟩ =
      some (.failure 502 LoadError.notAList.message, { new w with viewer := w.beginLoad.2 }) := by
    rw [handle_of_not_head (by decide +kernel), hroute]
    rfl
  exact ⟨outcomes, w, _, _, hrun, hhandle, rfl, unchanged_of_refused hhandle (Or.inr (by decide))⟩

end Web.Server

end AlbumBrowser
