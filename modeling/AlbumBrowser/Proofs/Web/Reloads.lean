import AlbumBrowser.Proofs.Web.ReadBack
import AlbumBrowser.Web.Service

/-!
Reloads that are under way. Other requests are answered while a reload waits for its feed, and other reloads may
begin and end meanwhile. Whatever happens in between, the server stays in service, so all that is so of
servers in service is so after every event. A reload that has been overtaken by then leaves the list
that has overtaken it, and is answered with this list, as if it were its own.
-/

namespace AlbumBrowser.Web

open Viewer

namespace Server

variable {s s' : Server} {fetched : Fetched} {r : Request} {response : Response}

theorem finishReload_stale {ticket : Nat} (h : ticket ≤ s.viewer.applied) (albums : List Album) :
    s.finishReload ticket (.ok albums) = (.ok .stale, s) := by
  rw [finishReload, finishLoad_stale h]

theorem applied_le_finishReload (s : Server) (ticket : Nat) (fetched : Fetched) :
    s.viewer.applied ≤ (s.finishReload ticket fetched).2.viewer.applied :=
  (finishLoad_changes s.viewer ticket fetched).applied_le

theorem applied_le_of_handle (h : s.handle fetched r = some (response, s')) :
    s.viewer.applied ≤ s'.viewer.applied := by
  have hanswered := handle_answered h
  generalize response.status = status at hanswered
  cases hanswered with
  | shown | refused | unfetched => exact Nat.le_refl _
  | done op _ hstep => exact (step_changes hstep).applied_le

end Server

namespace Service

variable {source : String} {zone : ViewerZone} {s s' t : Service} {event : Event} {events : List Event}
  {answer : Option Response} {responses : List Response} {response : Response} {ticket : Nat}

/-- The ways in which an event can happen. -/
inductive Happens (s : Service) : Event → Option Response → Service → Prop where
  | begun {r : Request} (hroute : r.route = .reload) : Happens s (.request r) none s.begin
  | handled {r : Request} {response : Response} {server : Server} (hroute : r.route ≠ .reload)
      (h : s.server.handle (.error .notAList) r = some (response, server)) :
      Happens s (.request r) (some response) { s with server := server }
  | finished {ticket : Nat} {fetched : Fetched} (hticket : ticket ∈ s.fetching) :
      Happens s (.fetched ticket fetched) none (s.finish ticket fetched)
  | answered {ticket : Nat} {outcome : Except LoadError LoadOutcome} {response : Response}
      (hended : s.ended.lookup ticket = some outcome) (h : s.server.reloadAnswer outcome = some response) :
      Happens s (.answered ticket) (some response) { s with ended := s.ended.filter (·.1 ≠ ticket) }
  /-- No such reload is under way. -/
  | idle {event : Event} : Happens s event none s

theorem happens_of_step (h : s.step event = some (answer, s')) : s.Happens event answer s' := by
  cases event with
  | request r =>
      rw [step] at h
      split at h
      · rename_i hroute
        cases h
        exact .begun hroute
      · rename_i hroute
        obtain ⟨⟨response, server⟩, hhandle, heq⟩ := Option.map_eq_some_iff.mp h
        cases heq
        exact .handled hroute hhandle
  | fetched ticket fetched =>
      rw [step] at h
      split at h
      · rename_i hticket
        cases h
        exact .finished hticket
      · cases h
        exact .idle
  | answered ticket =>
      rw [step] at h
      split at h
      · cases h
        exact .idle
      · rename_i outcome hended
        obtain ⟨response, hanswer, heq⟩ := Option.map_eq_some_iff.mp h
        cases heq
        exact .answered hended hanswer

/-- What fetches come to among events. -/
def Brings (events : List Event) : Prop := ∀ ticket fetched, .fetched ticket fetched ∈ events → Feed.Brings fetched

/-- The server is in service, and each reload that waits for its feed has been given a ticket of its own. -/
structure Works (source : String) (zone : ViewerZone) (s : Service) : Prop where
  serving : s.server.Serving source zone s.fetching
  distinct : s.fetching.Nodup

theorem works_of_inService {server : Server} (h : server.InService source zone) :
    Works source zone { server := server } := ⟨h.serving, List.nodup_nil⟩

theorem Works.step (h : s.Works source zone)
    (hbrings : ∀ ticket fetched, event = .fetched ticket fetched → Feed.Brings fetched)
    (hstep : s.step event = some (answer, s')) : s'.Works source zone := by
  cases happens_of_step hstep with
  | begun =>
      have hnew : s.server.beginReload.1 ∉ s.fetching :=
        fun hold => Nat.not_succ_le_self _ (h.serving.ticket_le hold).2
      exact ⟨h.serving.beginReload, List.nodup_cons.mpr ⟨hnew, h.distinct⟩⟩
  | handled _ hhandle =>
      -- Only a reload has anything fetched.
      have hnone : Feed.Brings (.error .notAList) := fun _ halbums => by cases halbums
      exact ⟨h.serving.handle hnone hhandle, h.distinct⟩
  | finished hticket =>
      have hdone := h.serving.finishReload hticket (hbrings _ _ rfl)
      exact ⟨hdone.mono fun _ => List.mem_of_mem_erase, h.distinct.erase _⟩
  | answered | idle => exact ⟨h.serving, h.distinct⟩

theorem applied_le_of_step (hstep : s.step event = some (answer, s')) :
    s.server.viewer.applied ≤ s'.server.viewer.applied := by
  cases happens_of_step hstep with
  | begun | answered | idle => exact Nat.le_refl _
  | handled _ hhandle => exact Server.applied_le_of_handle hhandle
  | finished => exact s.server.applied_le_finishReload _ _

/-! ### Runs -/

theorem run_cons_eq_some (h : s.run (event :: events) = some (responses, t)) :
    ∃ answer s' rest, s.step event = some (answer, s') ∧ s'.run events = some (rest, t) := by
  obtain ⟨⟨answer, s'⟩, hstep, hmore⟩ := Option.bind_eq_some_iff.mp h
  obtain ⟨⟨rest, t'⟩, hrun, heq⟩ := Option.bind_eq_some_iff.mp hmore
  cases heq
  exact ⟨answer, s', rest, hstep, hrun⟩

theorem Works.run (h : s.Works source zone) (hbrings : Brings events)
    (hrun : s.run events = some (responses, t)) : t.Works source zone := by
  induction events generalizing s responses with
  | nil =>
      cases hrun
      exact h
  | cons event events ih =>
      obtain ⟨answer, s', rest, hstep, hmore⟩ := run_cons_eq_some hrun
      refine ih (h.step ?_ hstep) ?_ hmore
      · rintro ticket fetched rfl
        exact hbrings ticket fetched List.mem_cons_self
      · exact fun ticket fetched hmem => hbrings ticket fetched (List.mem_cons_of_mem _ hmem)

theorem applied_le_of_run (hrun : s.run events = some (responses, t)) :
    s.server.viewer.applied ≤ t.server.viewer.applied := by
  induction events generalizing s responses with
  | nil =>
      cases hrun
      exact Nat.le_refl _
  | cons event events ih =>
      obtain ⟨answer, s', rest, hstep, hmore⟩ := run_cons_eq_some hrun
      exact Nat.le_trans (applied_le_of_step hstep) (ih hmore)

/-- A reload that has once been overtaken ends without leaving anything behind, whatever has happened since. -/
theorem finish_of_overtaken (hrun : s.run events = some (responses, t)) (h : ticket ≤ s.server.viewer.applied)
    (albums : List Album) :
    t.finish ticket (.ok albums) =
      { t with fetching := t.fetching.erase ticket, ended := (ticket, .ok .stale) :: t.ended } := by
  rw [finish, Server.finishReload_stale (Nat.le_trans h (applied_le_of_run hrun))]

/-- The answer to a reload is its failure or a look at the gallery as it is by then, and changes nothing. -/
theorem answer_of_reload (h : s.step (.answered ticket) = some (some response, s')) :
    s'.server = s.server ∧
      ((∃ e, s.ended.lookup ticket = some (.error e) ∧ response = .failure 502 e.message) ∨
        s.server.Shown .gallery response) := by
  cases happens_of_step h with
  | answered hended hanswer =>
      refine ⟨rfl, ?_⟩
      obtain ⟨e, rfl, hfailure⟩ | ⟨-, hshown⟩ := Server.reloadAnswer_cases hanswer
      · exact Or.inl ⟨e, hended, hfailure⟩
      · exact Or.inr hshown

/-- A server in service stays in service, however its requests and the parts of its reloads follow each other.
Reloads that are under way have tickets of their own; such a one leaves the server as it is if its fetch has
failed or if a later list is in place, and puts its own list in place if not. Late or not, it is answered
with what is got for the gallery then, and to answer it changes nothing. -/
theorem reloads_overlap {server : Server} (hs : server.InService source zone) (hbrings : Brings events)
    (hrun : run { server := server } events = some (responses, t)) :
    t.server.InService source zone ∧ t.fetching.Nodup ∧
    (∀ ticket ∈ t.fetching, 0 < ticket ∧ ticket ≤ t.server.viewer.issued ∧
      (∀ e, (t.finish ticket (.error e)).server = t.server) ∧
      ∀ albums, (ticket ≤ t.server.viewer.applied → (t.finish ticket (.ok albums)).server = t.server) ∧
        (t.server.viewer.applied < ticket →
          (t.finish ticket (.ok albums)).server.viewer.gallery = t.server.viewer.gallery.replace albums ∧
          (t.finish ticket (.ok albums)).server.viewer.criteria = Criteria.anything)) ∧
    ∀ ticket response u, t.step (.answered ticket) = some (some response, u) → u.server = t.server ∧
      (response.status = 502 ∨ t.server.Gives .gallery response ∧
        ∃ view, t.server.viewer.galleryView = some view ∧ response.ShowsGallery view) := by
  have hworks := (works_of_inService hs).run hbrings hrun
  refine ⟨hworks.serving.inService, hworks.distinct, ?_, ?_⟩
  · intro ticket hticket
    obtain ⟨hpos, hle⟩ := hworks.serving.ticket_le hticket
    refine ⟨hpos, hle, fun _ => rfl, fun albums => ⟨?_, ?_⟩⟩
    · intro hover
      rw [finish, Server.finishReload_stale hover]
    · intro hnew
      rw [finish, Server.finishReload, finishLoad_newer hnew]
      exact ⟨rfl, rfl⟩
  · intro ticket response u hanswer
    obtain ⟨hsame, ⟨e, -, rfl⟩ | hshown⟩ := answer_of_reload hanswer
    · exact ⟨hsame, Or.inl rfl⟩
    · exact ⟨hsame, Or.inr ⟨hshown.gives, hshown.exists_gallery⟩⟩

/-- A reload that is overtaken by one that finds no albums is answered with none. -/
example {r : Request} (hroute : r.route = .reload) :
    ∃ t, run { server := Server.sampleServer } [.request r, .request r, .fetched 3 (.ok []),
        .fetched 2 (.ok Server.sampleAlbums), .answered 2] =
      some ([.ok (GalleryView.toJson ⟨0, "0 album(s)", false, []⟩)], t) ∧ t.server.viewer.gallery.albums = [] := by
  simp only [run, step, if_pos hroute]
  exact ⟨_, rfl, rfl⟩

/-- A reload that nothing comes between is answered like a request. -/
theorem run_reload {server server' : Server} {r : Request} {fetched : Fetched} (hroute : r.route = .reload)
    (h : server.handle fetched r = some (response, server')) :
    run { server := server } [.request r, .fetched (server.viewer.issued + 1) fetched,
      .answered (server.viewer.issued + 1)] = some ([response], { server := server' }) := by
  rw [Server.handle_eq_onRoute hroute (by decide), Server.onRoute, Server.postReload_eq] at h
  obtain ⟨answer, hanswer, heq⟩ := Option.map_eq_some_iff.mp h
  cases heq
  have hbegin : step { server := server } (.request r) = some (none, begin { server := server }) := if_pos hroute
  have hfinish : step (begin { server := server }) (.fetched (server.viewer.issued + 1) fetched) =
      some (none, ⟨(server.reload fetched).2, [], [(server.viewer.issued + 1, (server.reload fetched).1)]⟩) := by
    have hticket : server.viewer.issued + 1 ∈ (begin { server := server }).fetching := List.mem_cons_self
    have herase : (begin { server := server }).fetching.erase (server.viewer.issued + 1) = [] := List.erase_cons_head _ _
    rw [step, if_pos hticket, finish, herase]
    rfl
  have hended : step ⟨(server.reload fetched).2, [], [(server.viewer.issued + 1, (server.reload fetched).1)]⟩
      (.answered (server.viewer.issued + 1)) = some (some response, { server := (server.reload fetched).2 }) := by
    rw [step, List.lookup_cons_self]
    simp [hanswer]
  simp [run, hbegin, hfinish, hended]

end Service

end AlbumBrowser.Web
