import AlbumBrowser.Proofs.CommandLine.Browse
import AlbumBrowser.Proofs.Web.Encoding
import AlbumBrowser.Proofs.Web.Refusals
import Mathlib.Data.List.Forall2

/-!
A session of requests that opens an album, chooses a folder and steps through its images, beside the command
that does the same at once. The server takes every step, on and back, while the command takes their
difference one way; both end at the same place, and they fail for the same albums and folders.
-/

namespace AlbumBrowser.Web

open Viewer

variable {source : String} {zone : ViewerZone} {s s' : Server} {id key : String} {fetched : Fetched}

/-! ### Requests -/

namespace Request

/-- A request that asks for an operation on the open album, in whatever words. -/
def Asks (r : Request) : Viewer.Operation → Prop
  | .openAlbum id => r.route = .openAlbum ∧ (Query.ofTarget r.target).get? "id" = some id
  | .selectFolder key => r.route = .selectFolder ∧ (Query.ofTarget r.target).get? "key" = some key
  | .next => r.route = .next
  | .prev => r.route = .prev
  | _ => False

/-- The request that a page makes. -/
def posting (path : String) (q : Query) : Request :=
  { method := "POST", target := String.ofList (path.toList ++ '?' :: q.toChars) }

theorem route_posting {path : String} (h : '?' ∉ path.toList) (q : Query) :
    (posting path q).route = .of "POST" path := by
  have hpath : ∀ c ∈ path.toList, decide (c ≠ '?') = true := by
    intro c hc
    refine decide_eq_true ?_
    rintro rfl
    exact h hc
  have hwhole : (posting path q).path = path := by
    rw [Request.path, posting, String.toList_ofList, List.takeWhile_append_of_pos hpath]
    simp
  rw [route, hwhole]
  rfl

theorem posting_asks_openAlbum (id : String) : (posting "/api/open" [("id", id)]).Asks (.openAlbum id) := by
  refine ⟨(route_posting (by decide) _).trans (by decide +kernel), ?_⟩
  rw [posting, Query.ofTarget_toChars (by decide)]
  rfl

theorem posting_asks_selectFolder (key : String) :
    (posting "/api/folder" [("key", key)]).Asks (.selectFolder key) := by
  refine ⟨(route_posting (by decide) _).trans (by decide +kernel), ?_⟩
  rw [posting, Query.ofTarget_toChars (by decide)]
  rfl

end Request

namespace Server

/-- The answers to a list of messages, each to the server that the one before has left. -/
def runBy {α : Type} (answer : Server → α → Option (Response × Server)) (s : Server) :
    List α → Option (List Response × Server)
  | [] => some ([], s)
  | message :: rest => do
    let (response, s) ← answer s message
    let (responses, s) ← runBy answer s rest
    return (response :: responses, s)

/-- The answers to requests, each with what a fetch of the feed comes to. -/
def run : Server → List (Fetched × Request) → Option (List Response × Server) :=
  runBy fun s request => s.handle request.1 request.2

/-- The answer to any request that asks for an operation. -/
def answerTo (s : Server) : Viewer.Operation → Option (Response × Server)
  | .openAlbum id => s.postOpen [("id", id)]
  | .selectFolder key => s.postFolder [("key", key)]
  | .next => s.viewer.next.map s.albumAnswer
  | .prev => s.viewer.prev.map s.albumAnswer
  | _ => none

theorem handle_of_asks {r : Request} {op : Viewer.Operation} (h : r.Asks op) : s.handle fetched r = s.answerTo op := by
  cases op with
  | openAlbum id =>
      obtain ⟨hopen, hid⟩ := h
      rw [handle_eq_onRoute hopen (by decide)]
      change s.postOpen (Query.ofTarget r.target) = s.postOpen [("id", id)]
      rw [postOpen, hid]
      rfl
  | selectFolder key =>
      obtain ⟨hselect, hkey⟩ := h
      rw [handle_eq_onRoute hselect (by decide)]
      change s.postFolder (Query.ofTarget r.target) = s.postFolder [("key", key)]
      rw [postFolder, hkey]
      rfl
  | next => exact handle_eq_onRoute h (by decide)
  | prev => exact handle_eq_onRoute h (by decide)
  | _ => cases h

/-- However requests come and whatever fetches come to, they lead to reached servers. -/
theorem Reached.run (h : s.Reached source zone) {requests : List (Fetched × Request)} {responses : List Response}
    (hrun : s.run requests = some (responses, s')) : s'.Reached source zone := by
  induction requests generalizing s responses with
  | nil =>
      cases hrun
      exact h
  | cons request requests ih =>
      obtain ⟨⟨response, u⟩, hhandle, hrest⟩ := Option.bind_eq_some_iff.mp hrun
      obtain ⟨⟨more, w⟩, hmore, heq⟩ := Option.bind_eq_some_iff.mp hrest
      cases heq
      exact ih (h.handle hhandle) hmore

theorem run_eq_of_asks {requests : List (Fetched × Request)} {ops : List Viewer.Operation}
    (h : List.Forall₂ (fun request op => request.2.Asks op) requests ops) : s.run requests = s.runBy answerTo ops := by
  induction h generalizing s with
  | nil => rfl
  | cons hasks _ ih =>
      change (s.handle _ _).bind _ = (s.answerTo _).bind _
      rw [handle_of_asks hasks]
      apply Option.bind_congr
      rintro ⟨response, u⟩ -
      change (u.run _).bind _ = (u.runBy answerTo _).bind _
      rw [ih]

theorem runBy_append {α : Type} {answer : Server → α → Option (Response × Server)} {first : List α}
    {responses : List Response} (h : s.runBy answer first = some (responses, s')) (rest : List α) :
    s.runBy answer (first ++ rest) = (s'.runBy answer rest).map fun (more, after) => (responses ++ more, after) := by
  induction first generalizing s responses with
  | nil =>
      cases h
      cases hrest : runBy answer s' rest <;> exact hrest
  | cons message first ih =>
      obtain ⟨⟨response, u⟩, hanswer, hrest⟩ := Option.bind_eq_some_iff.mp h
      obtain ⟨⟨more, w⟩, hmore, heq⟩ := Option.bind_eq_some_iff.mp hrest
      cases heq
      rw [List.cons_append, runBy, hanswer]
      change (u.runBy answer (first ++ rest)).bind _ = _
      rw [ih hmore]
      cases s'.runBy answer rest <;> rfl

/-! ### Answers while an album is open -/

variable {o o' : OpenAlbum} {a : Album} {view : AlbumView} {ops : List Viewer.Operation}

def showing (s : Server) (o : OpenAlbum) : Server := { s with viewer := s.viewer.showing o }

theorem answerTo_openAlbum (h : s.viewer.gallery.find? id = some a) :
    s.answerTo (.openAlbum id) = (OpenAlbum.view { album := a } s.viewer.zone).map fun view =>
      (.ok view.toJson, s.showing { album := a }) := by
  change (s.viewer.openAlbum id).map _ = _
  rw [openAlbum_of_find? h, Option.map_map]
  rfl

theorem answerTo_unknownAlbum (h : s.viewer.gallery.find? id = none) :
    s.answerTo (.openAlbum id) = some (.failure 404 "Album introuvable", s) := by
  change (s.viewer.openAlbum id).map _ = _
  rw [openAlbum_of_find?_none h]
  rfl

/-- What is answered to the choice of a folder while an album is open. -/
theorem answerTo_selectFolder_showing (hview : o.view s.viewer.zone = some view) :
    (s.showing o).answerTo (.selectFolder key) =
      if (o.select? key).isSome then ((s.viewer.showing o).selectFolder key).map (s.showing o).albumAnswer
      else some (.failure 404 "Dossier introuvable", s.showing o) := by
  have halbum : (s.showing o).viewer.albumView = some (some view) := by
    change (s.viewer.showing o).albumView = _
    rw [albumView_showing, hview]
    rfl
  change (s.showing o).viewer.albumView.bind _ = _
  rw [halbum, ← OpenAlbum.any_folders_of_view hview key]
  change (if view.folders.any (·.key = key) = true then _ else _) = _
  split
  · change ((s.viewer.showing o).selectFolder key).bind _ = _
    cases (s.viewer.showing o).selectFolder key <;> rfl
  · rfl

theorem answerTo_selectFolder (hview : o.view s.viewer.zone = some view) (h : o.select? key = some o') :
    (s.showing o).answerTo (.selectFolder key) = (o'.view s.viewer.zone).map fun view =>
      (.ok view.toJson, s.showing o') := by
  rw [answerTo_selectFolder_showing hview, h, selectFolder_showing h, Option.map_map]
  rfl

theorem answerTo_unknownFolder (hview : o.view s.viewer.zone = some view) (h : o.select? key = none) :
    (s.showing o).answerTo (.selectFolder key) = some (.failure 404 "Dossier introuvable", s.showing o) := by
  rw [answerTo_selectFolder_showing hview, h]
  rfl

theorem albumAnswer_showing {step : Viewer → Option (Option AlbumView × Viewer)} {turn : OpenAlbum → OpenAlbum}
    (h : Steps step turn) (s : Server) (o : OpenAlbum) :
    (step (s.showing o).viewer).map (s.showing o).albumAnswer =
      ((turn o).view s.viewer.zone).map fun view => (.ok view.toJson, s.showing (turn o)) := by
  change (step (s.viewer.showing o)).map _ = _
  rw [(h s.viewer o).2, Option.map_map]
  rfl

/-- Operations are all answered with a view, the last one with that of the place that they lead to. -/
def Leads (s : Server) (ops : List Viewer.Operation) (o : OpenAlbum) : Prop :=
  ∃ responses view, s.runBy answerTo ops = some (responses, s.showing o) ∧ (∀ r ∈ responses, r.status = 200) ∧
    o.view s.viewer.zone = some view ∧ responses.getLast? = some (.ok view.toJson)

theorem runBy_openAlbum (h : s.viewer.gallery.find? id = some a)
    (hview : OpenAlbum.view { album := a } s.viewer.zone = some view) :
    s.runBy answerTo [.openAlbum id] = some ([.ok view.toJson], s.showing { album := a }) := by
  rw [runBy, answerTo_openAlbum h, hview]
  rfl

theorem leads_openAlbum (h : s.viewer.gallery.find? id = some a)
    (hview : OpenAlbum.view { album := a } s.viewer.zone = some view) :
    Leads s [.openAlbum id] { album := a } := by
  refine ⟨[.ok view.toJson], view, runBy_openAlbum h hview, ?_, hview, rfl⟩
  intro r hr
  rw [List.mem_singleton.mp hr]
  rfl

theorem Leads.append {op : Viewer.Operation} (h : Leads s ops o) (halbum : o'.album = o.album)
    (hanswer : (s.showing o).answerTo op = (o'.view s.viewer.zone).map fun view => (.ok view.toJson, s.showing o')) :
    Leads s (ops ++ [op]) o' := by
  obtain ⟨responses, view, hrun, hok, hview, -⟩ := h
  obtain ⟨view', hview'⟩ := OpenAlbum.exists_view hview halbum
  refine ⟨responses ++ [.ok view'.toJson], view', ?_, ?_, hview', List.getLast?_concat⟩
  · rw [runBy_append hrun, runBy, hanswer, hview']
    rfl
  · intro r hr
    rcases List.mem_append.mp hr with hbefore | hlast
    · exact hok r hbefore
    · rw [List.mem_singleton.mp hlast]
      rfl

theorem Leads.append_replicate {op : Viewer.Operation} {turn : OpenAlbum → OpenAlbum} (h : Leads s ops o)
    (hturn : ∀ o : OpenAlbum, (turn o).album = o.album ∧ (s.showing o).answerTo op =
      ((turn o).view s.viewer.zone).map fun view => (.ok view.toJson, s.showing (turn o))) (n : Nat) :
    Leads s (ops ++ List.replicate n op) (turn^[n] o) := by
  induction n with
  | zero =>
      rw [List.replicate_zero, List.append_nil]
      exact h
  | succ n ih =>
      rw [List.replicate_succ', ← List.append_assoc, Function.iterate_succ_apply']
      exact ih.append (hturn _).1 (hturn _).2

/-- Steps on and then back, after operations that have led to a place. -/
theorem Leads.steps (h : Leads s ops o) (next prev : Nat) :
    Leads s (ops ++ (List.replicate next .next ++ List.replicate prev .prev))
      (OpenAlbum.prev^[prev] (OpenAlbum.next^[next] o)) := by
  rw [← List.append_assoc]
  apply Leads.append_replicate
  · apply h.append_replicate
    exact fun o => ⟨o.album_next, albumAnswer_showing steps_next s o⟩
  · exact fun o => ⟨o.album_prev, albumAnswer_showing steps_prev s o⟩

/-! ### Answers whatever is open -/

theorem Answered.albumView_ne_none {route : Route} {status : Nat} (h : Answered s fetched route status s')
    (hs : s.viewer.albumView ≠ none) : s'.viewer.albumView ≠ none := by
  cases h with
  | shown | refused | unfetched => exact hs
  | done op hposts hstep => exact (step_changes hstep).invariant (fun _ _ hchange => hchange.albumView_ne_none) hs

theorem answerTo_answered {op : Viewer.Operation} {response : Response} (fetched : Fetched)
    (h : s.answerTo op = some (response, s')) : ∃ route, Answered s fetched route response.status s' := by
  cases op with
  | openAlbum id => exact ⟨.openAlbum, postOpen_answered (q := [("id", id)]) h⟩
  | selectFolder key => exact ⟨.selectFolder, postFolder_answered (q := [("key", key)]) h⟩
  | next => exact ⟨.next, answered_albumAnswer .next (by decide) trivial rfl h⟩
  | prev => exact ⟨.prev, answered_albumAnswer .prev (by decide) trivial rfl h⟩
  | _ => cases h

/-- A folder can be chosen and steps be taken whatever is open, so long as it can be shown. -/
theorem answerTo_ne_none (hs : s.viewer.albumView ≠ none) {op : Viewer.Operation} (hop : op.stays = true) :
    s.answerTo op ≠ none := by
  intro hnone
  cases op with
  | next =>
      have hnext : s.viewer.next = none := Option.map_eq_none_iff.mp hnone
      exact step_ne_none_of_stays hs hop (Option.map_eq_none_iff.mpr hnext)
  | prev =>
      have hprev : s.viewer.prev = none := Option.map_eq_none_iff.mp hnone
      exact step_ne_none_of_stays hs hop (Option.map_eq_none_iff.mpr hprev)
  | selectFolder key =>
      obtain ⟨⟨outcome, w⟩, hstep⟩ := Option.ne_none_iff_exists'.mp (step_ne_none_of_stays hs hop)
      obtain ⟨⟨shown, v⟩, hselect, -⟩ := Option.map_eq_some_iff.mp hstep
      obtain ⟨view, hview⟩ := Option.ne_none_iff_exists'.mp hs
      change s.viewer.albumView.bind _ = none at hnone
      rw [hview] at hnone
      cases view with
      | none => cases hnone
      | some view =>
          change (if view.folders.any (·.key = key) = true then (s.viewer.selectFolder key).bind _ else _) = none
            at hnone
          rw [hselect] at hnone
          split at hnone <;> cases hnone
  | _ => cases hop

theorem runBy_ne_none (hs : s.viewer.albumView ≠ none) {ops : List Viewer.Operation}
    (hops : ∀ op ∈ ops, op.stays = true) :
    ∃ responses s', s.runBy answerTo ops = some (responses, s') := by
  induction ops generalizing s with
  | nil => exact ⟨[], s, rfl⟩
  | cons op ops ih =>
      obtain ⟨hop, hrest⟩ := List.forall_mem_cons.mp hops
      obtain ⟨⟨response, u⟩, hanswer⟩ := Option.ne_none_iff_exists'.mp (answerTo_ne_none hs hop)
      obtain ⟨route, hanswered⟩ := answerTo_answered (.ok []) hanswer
      obtain ⟨responses, w, hrun⟩ := ih (hanswered.albumView_ne_none hs) hrest
      refine ⟨response :: responses, w, ?_⟩
      rw [runBy, hanswer]
      change (u.runBy answerTo ops).bind _ = _
      rw [hrun]
      rfl

/-! ### A session -/

/-- The operations of a look into an album: it is opened, a folder is chosen if one is named, and steps are taken
on and back. -/
def session (id : String) (folder : Option String) (next prev : Nat) : List Viewer.Operation :=
  .openAlbum id :: ((folder.map .selectFolder).toList ++ (List.replicate next .next ++ List.replicate prev .prev))

theorem stays_of_mem_tail (id : String) (folder : Option String) (next prev : Nat) :
    ∀ op ∈ (session id folder next prev).tail, op.stays = true := by
  intro op hop
  rcases List.mem_append.mp hop with hfolder | hsteps
  · obtain ⟨key, -, rfl⟩ := Option.map_eq_some_iff.mp (Option.mem_toList.mp hfolder)
    rfl
  · rcases List.mem_append.mp hsteps with hnext | hprev
    · rw [List.eq_of_mem_replicate hnext]
      rfl
    · rw [List.eq_of_mem_replicate hprev]
      rfl

/-- How a look into an album by the command compares with one by a session: neither comes to an end, or both
fail, the session at the album or the folder, or both show the same place. -/
inductive Agree (folder : Option String) :
    Option (Except CommandLine.Failure AlbumView) → Option (List Response × Server) → Prop where
  | stopped : Agree folder none none
  | failed {e : CommandLine.Failure} {responses : List Response} {s : Server} (he : e ≠ .nothingOpen)
      (hrefused : ∃ r ∈ responses.take (1 + folder.toList.length), r.status = 404) :
      Agree folder (some (.error e)) (some (responses, s))
  | shown {view : AlbumView} {responses : List Response} {s : Server} (hok : ∀ r ∈ responses, r.status = 200)
      (hview : s.viewer.albumView = some (some view)) (hlast : responses.getLast? = some (.ok view.toJson)) :
      Agree folder (some (.ok view)) (some (responses, s))

section

variable {folder : Option String} {looked : Option (Except CommandLine.Failure AlbumView)}
  {answered : Option (List Response × Server)}

theorem Agree.shown_iff (h : Agree folder looked answered) (view : AlbumView) :
    looked = some (.ok view) ↔ ∃ responses s', answered = some (responses, s') ∧ (∀ r ∈ responses, r.status = 200) ∧
      s'.viewer.albumView = some (some view) ∧ responses.getLast? = some (.ok view.toJson) := by
  constructor
  · rintro rfl
    cases h with
    | shown hok hview hlast => exact ⟨_, _, rfl, hok, hview, hlast⟩
  · rintro ⟨responses, s', rfl, hok, hview, -⟩
    cases h with
    | failed he hrefused =>
        obtain ⟨r, hr, hstatus⟩ := hrefused
        rw [hok r (List.mem_of_mem_take hr)] at hstatus
        cases hstatus
    | shown _ hshown =>
        rw [hview] at hshown
        cases hshown
        rfl

theorem Agree.failed_iff (h : Agree folder looked answered) :
    (∃ e, looked = some (.error e)) ↔ ∃ responses s', answered = some (responses, s') ∧
      ∃ r ∈ responses.take (1 + folder.toList.length), r.status = 404 := by
  constructor
  · rintro ⟨e, rfl⟩
    cases h with
    | failed he hrefused => exact ⟨_, _, rfl, hrefused⟩
  · rintro ⟨responses, s', rfl, r, hr, hstatus⟩
    cases h with
    | failed => exact ⟨_, rfl⟩
    | shown hok =>
        rw [hok r (List.mem_of_mem_take hr)] at hstatus
        cases hstatus

theorem Agree.ne_nothingOpen (h : Agree folder looked answered) : looked ≠ some (.error .nothingOpen) := by
  rintro rfl
  cases h with
  | failed he => exact he rfl

theorem Agree.stopped_iff (h : Agree folder looked answered) : looked = none ↔ answered = none := by
  constructor
  · rintro rfl
    cases h
    rfl
  · rintro rfl
    cases h
    rfl

end

theorem Leads.agree {folder : Option String} (h : Leads s ops o) (hview : o.view s.viewer.zone = some view) :
    Agree folder (some (.ok view)) (s.runBy answerTo ops) := by
  obtain ⟨responses, view', hrun, hok, hview', hlast⟩ := h
  rw [hview] at hview'
  cases hview'
  rw [hrun]
  refine Agree.shown hok ?_ hlast
  change (s.viewer.showing o).albumView = _
  rw [albumView_showing, hview]
  rfl

section

variable {v : Viewer} (next prev : Nat) (hfound : s.viewer.gallery.find? id = some a)
  (hview : OpenAlbum.view { album := a } s.viewer.zone = some view)

include hfound hview

/-- Without a folder all steps stay where they are. -/
theorem leads_without_folder : Leads s (session id none next prev) { album := a } := by
  have hnext : OpenAlbum.next { album := a } = { album := a } := OpenAlbum.move_of_no_folder rfl _
  have hprev : OpenAlbum.prev { album := a } = { album := a } := OpenAlbum.move_of_no_folder rfl _
  have hsteps := (leads_openAlbum hfound hview).steps next prev
  rw [Function.iterate_fixed hnext, Function.iterate_fixed hprev] at hsteps
  exact hsteps

theorem leads_through_folder (hselect : OpenAlbum.select? { album := a } key = some o) :
    Leads s (session id (some key) next prev)
      ((if 0 < (next - prev : Int) then OpenAlbum.next else OpenAlbum.prev)^[(next - prev : Int).natAbs] o) := by
  rw [← (OpenAlbum.sound_of_select? hselect).iterate_prev_iterate_next next prev]
  have hchosen := (leads_openAlbum hfound hview).append (OpenAlbum.album_of_select? hselect)
    (answerTo_selectFolder hview hselect)
  exact hchosen.steps next prev

theorem runBy_unknownFolder (hselect : OpenAlbum.select? { album := a } key = none) :
    ∃ responses s', s.runBy answerTo (session id (some key) next prev) =
      some (.ok view.toJson :: .failure 404 "Dossier introuvable" :: responses, s') := by
  have hshown : (s.showing { album := a }).viewer.albumView ≠ none := by
    change (s.viewer.showing { album := a }).albumView ≠ none
    rw [albumView_showing, hview]
    exact Option.some_ne_none _
  obtain ⟨responses, s', hrest⟩ := runBy_ne_none hshown fun op hop =>
    stays_of_mem_tail id (some key) next prev op (List.mem_cons_of_mem _ hop)
  refine ⟨responses, s', ?_⟩
  change s.runBy answerTo ([.openAlbum id] ++ .selectFolder key :: _) = _
  rw [runBy_append (runBy_openAlbum hfound hview), runBy, answerTo_unknownFolder hview hselect]
  change ((runBy answerTo (s.showing { album := a }) _).bind _).map _ = _
  rw [hrest]
  rfl

end

theorem runBy_unknownAlbum (hs : s.viewer.albumView ≠ none) (hfound : s.viewer.gallery.find? id = none)
    (folder : Option String) (next prev : Nat) :
    ∃ responses s', s.runBy answerTo (session id folder next prev) =
      some (.failure 404 "Album introuvable" :: responses, s') := by
  obtain ⟨responses, s', hrest⟩ := runBy_ne_none hs (stays_of_mem_tail id folder next prev)
  refine ⟨responses, s', ?_⟩
  rw [session, runBy, answerTo_unknownAlbum hfound]
  change (s.runBy answerTo (session id folder next prev).tail).bind _ = _
  rw [hrest]
  rfl

theorem agree {v : Viewer} (hs : s.viewer.albumView ≠ none) (halbums : v.gallery.albums = s.viewer.gallery.albums)
    (hzone : v.zone = s.viewer.zone) (id : String) (folder : Option String) (next prev : Nat) :
    Agree folder (CommandLine.browse v id folder (next - prev)) (s.runBy answerTo (session id folder next prev)) := by
  have hfind : v.gallery.find? id = s.viewer.gallery.find? id := by
    rw [Gallery.find?, halbums]
    rfl
  cases hfound : s.viewer.gallery.find? id with
  | none =>
      obtain ⟨responses, s', hrun⟩ := runBy_unknownAlbum hs hfound folder next prev
      rw [CommandLine.browse_unknownAlbum (hfind.trans hfound), hrun]
      refine Agree.failed (fun h => by cases h) ⟨.failure 404 "Album introuvable", ?_, rfl⟩
      rw [Nat.add_comm]
      exact List.mem_cons_self
  | some a =>
      rw [hfound] at hfind
      cases hview : OpenAlbum.view { album := a } s.viewer.zone with
      | none =>
          rw [CommandLine.browse_unshown hfind (hzone ▸ hview), session, runBy, answerTo_openAlbum hfound, hview]
          exact Agree.stopped
      | some view =>
          have hviewed : OpenAlbum.view { album := a } v.zone = some view := hzone ▸ hview
          cases folder with
          | none =>
              rw [CommandLine.browse_album hfind hviewed]
              exact (leads_without_folder next prev hfound hview).agree hview
          | some key =>
              cases hselect : OpenAlbum.select? { album := a } key with
              | none =>
                  obtain ⟨responses, s', hrun⟩ := runBy_unknownFolder next prev hfound hview hselect
                  rw [CommandLine.browse_unknownFolder hfind hviewed hselect, hrun]
                  refine Agree.failed (fun h => by cases h) ⟨.failure 404 "Dossier introuvable", ?_, rfl⟩
                  exact List.mem_cons_of_mem _ List.mem_cons_self
              | some o =>
                  obtain ⟨place, hplace, hbrowse⟩ := CommandLine.browse_folder (next - prev) hfind hviewed hselect
                  rw [hzone] at hplace
                  rw [hbrowse]
                  exact (leads_through_folder next prev hfound hview hselect).agree hplace

/-- The command that shows an album and a session of requests that looks into it agree, for any server that has
the feed's list in place and however the requests are worded: the command shows a view exactly when all
requests succeed and leave the server with this view, which is also the last answer; it fails exactly when
the album or the folder is answered with 404, and never because nothing is open; and it stops exactly when
the session does. -/
theorem browse_agrees_with_requests (hs : s.Reached source zone) {folder : Option String} {next prev : Nat}
    {requests : List (Fetched × Request)}
    (hasks : List.Forall₂ (fun request op => request.2.Asks op) requests (session id folder next prev)) :
    ∃ v, CommandLine.loaded source zone (.ok s.viewer.gallery.albums) = .ok v ∧
      CommandLine.albumScreen source zone id folder (next - prev) (.ok s.viewer.gallery.albums) =
        (CommandLine.browse v id folder (next - prev)).map
          (·.map fun view => Terminal.header source ++ view.screen) ∧
      (∀ view, CommandLine.browse v id folder (next - prev) = some (.ok view) ↔
        ∃ responses s', s.run requests = some (responses, s') ∧ (∀ r ∈ responses, r.status = 200) ∧
          s'.viewer.albumView = some (some view) ∧ responses.getLast? = some (.ok view.toJson)) ∧
      ((∃ e, CommandLine.browse v id folder (next - prev) = some (.error e)) ↔
        ∃ responses s', s.run requests = some (responses, s') ∧
          ∃ r ∈ responses.take (1 + folder.toList.length), r.status = 404) ∧
      CommandLine.browse v id folder (next - prev) ≠ some (.error .nothingOpen) ∧
      (CommandLine.browse v id folder (next - prev) = none ↔ s.run requests = none) := by
  obtain ⟨-, ops, outcomes, hrun⟩ := hs
  have hview := albumView_ne_none_of_run hrun
  have hagree := agree (v := { fresh source zone with
    gallery := ({} : Gallery).replace s.viewer.gallery.albums, issued := 1, applied := 1 })
    hview rfl (zone_of_run hrun).symm id folder next prev
  rw [← run_eq_of_asks hasks] at hagree
  exact ⟨_, CommandLine.loaded_ok source zone _, rfl, hagree.shown_iff, hagree.failed_iff, hagree.ne_nothingOpen,
    hagree.stopped_iff⟩

/-- Two steps on and one back in a folder of two images, as a page asks for them. -/
def sampleRequests : List (Fetched × Request) :=
  [(.ok [], .posting "/api/open" [("id", "2")]), (.ok [], .posting "/api/folder" [("key", "cara")]),
    (.ok [], { method := "POST", target := "/api/next" }), (.ok [], { method := "post", target := "/api/next" }),
    (.ok [], { method := "POST", target := "/api/prev?now" })]

theorem browse_agrees_with_sampleRequests : ∃ outcomes w view,
    (fresh "albums.json" Zone.utc).run sampleRun = some (outcomes, w) ∧
    (view.activeFolder, view.image, view.position, view.total) = (some "cara", some "p/cara/2.jpg", 2, 2) ∧
    CommandLine.browse { fresh "albums.json" Zone.utc with
      gallery := ({} : Gallery).replace w.gallery.albums, issued := 1, applied := 1 } "2" (some "cara") 1 =
        some (.ok view) ∧
    ∃ responses s', (new w).run sampleRequests = some (responses, s') ∧ (∀ r ∈ responses, r.status = 200) ∧
      s'.viewer.albumView = some (some view) ∧ responses.getLast? = some (.ok view.toJson) := by
  obtain ⟨outcomes, w, view, hrun, hplace, hbrowse⟩ : ∃ outcomes w view,
      (fresh "albums.json" Zone.utc).run sampleRun = some (outcomes, w) ∧
      (view.activeFolder, view.image, view.position, view.total) = (some "cara", some "p/cara/2.jpg", 2, 2) ∧
      CommandLine.browse { fresh "albums.json" Zone.utc with
        gallery := ({} : Gallery).replace w.gallery.albums, issued := 1, applied := 1 } "2" (some "cara") 1 =
          some (.ok view) := ⟨_, _, _, rfl, rfl, rfl⟩
  have hasks : List.Forall₂ (fun request op => request.2.Asks op) sampleRequests (session "2" (some "cara") 2 1) := by
    have hnext : (Request.mk "POST" "/api/next" .empty).route = .next := by decide +kernel
    have hlower : (Request.mk "post" "/api/next" .empty).route = .next := by decide +kernel
    have hprev : (Request.mk "POST" "/api/prev?now" .empty).route = .prev := by decide +kernel
    refine .cons (Request.posting_asks_openAlbum "2") (.cons (Request.posting_asks_selectFolder "cara") ?_)
    exact .cons hnext (.cons hlower (.cons hprev .nil))
  obtain ⟨v, hloaded, -, hshown, -⟩ := browse_agrees_with_requests (reached_new hrun) hasks
  cases hloaded
  exact ⟨outcomes, w, view, hrun, hplace, hbrowse, (hshown view).mp hbrowse⟩

end Server

end AlbumBrowser.Web
