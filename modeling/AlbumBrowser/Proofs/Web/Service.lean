import AlbumBrowser.Proofs.Viewer.Stock
import AlbumBrowser.Proofs.Web.Session

/-!
Servers in service. Such a server has been reached by loads that end with the tickets they were given and that
bring nothing but feeds, among anything else; and whatever requests it is sent, it stays in service. Its
loaded list is then never ahead of the tickets, and its albums are all described by records.
-/

namespace AlbumBrowser

namespace Feed

/-- What fetches come to: if there is a list, it is written in a text. -/
def Brings (fetched : Fetched) : Prop := ∀ albums, fetched = .ok albums → ∃ text, parse text = .ok albums

theorem Brings.exists_text {fetched : Fetched} (h : Brings fetched) {albums : List Album}
    (halbums : fetched.toOption = some albums) : ∃ text, parse text = .ok albums := by
  cases fetched with
  | error e => cases halbums
  | ok brought =>
      cases halbums
      exact h albums rfl

theorem brings_ofFile (path : String) (content : Except FileFault ByteArray) : Brings (ofFile path content) := by
  intro albums h
  cases content with
  | error fault => cases h
  | ok bytes =>
      cases htext : String.fromUTF8? bytes with
      | none =>
          rw [ofFile, htext] at h
          cases h
      | some text =>
          rw [ofFile, htext] at h
          exact ⟨text, h⟩

theorem brings_ofResponse (url : String) (status : Nat) (body : List UInt8) : Brings (ofResponse url status body) := by
  intro albums h
  unfold ofResponse at h
  split at h
  · exact ⟨_, h⟩
  · cases h

end Feed

namespace Viewer

variable {ops : List Operation} {outcomes : List Outcome} {op : Operation}

/-- An operation may follow that finishes no load, or one whose ticket has been given out. -/
theorem TicketsHeld.concat (h : TicketsHeld ops outcomes) (hlength : outcomes.length = ops.length)
    (hop : ∀ ticket fetched, op = .finishLoad ticket fetched → .ticket ticket ∈ outcomes) (outcome : Outcome) :
    TicketsHeld (ops ++ [op]) (outcomes ++ [outcome]) := by
  intro i ticket fetched hi
  obtain ⟨j, hlt, hticket⟩ : ∃ j < i, outcomes[j]? = some (Outcome.ticket ticket) := by
    rcases Nat.lt_or_ge i ops.length with hlt | hge
    · rw [List.getElem?_append_left hlt] at hi
      exact h i ticket fetched hi
    · rw [List.getElem?_append_right hge] at hi
      have hlast := (List.mem_singleton.mp (List.mem_of_getElem? hi)).symm
      obtain ⟨j, hj, hticket⟩ := List.getElem_of_mem (hop ticket fetched hlast)
      exact ⟨j, by omega, List.getElem?_eq_some_iff.mpr ⟨hj, hticket⟩⟩
  refine ⟨j, hlt, ?_⟩
  rw [List.getElem?_append_left (List.getElem?_eq_some_iff.mp hticket).1]
  exact hticket

theorem FedWith.concat {texts : Set String} (h : FedWith texts ops)
    (hop : ∀ albums, op.brings? = some albums → ∃ text ∈ texts, Feed.parse text = .ok albums) :
    FedWith texts (ops ++ [op]) := by
  intro other hother
  rcases List.mem_append.mp hother with hbefore | hlast
  · exact h other hbefore
  · rw [List.mem_singleton.mp hlast]
    exact hop

end Viewer

namespace Web.Server

open Viewer

variable {source : String} {zone : ViewerZone} {s s' : Server} {fetched : Fetched} {r : Request} {response : Response}

/-- The servers that feeds and requests lead to. Loads may overlap, but each ends with a ticket that it was given. -/
structure InService (source : String) (zone : ViewerZone) (s : Server) : Prop where
  page : s.page = Page.render source
  run : ∃ ops outcomes, (fresh source zone).run ops = some (outcomes, s.viewer) ∧ TicketsHeld ops outcomes ∧
    FedWith Set.univ ops

theorem inService_new {ops : List Viewer.Operation} {outcomes : List Viewer.Outcome} {v : Viewer}
    (h : (fresh source zone).run ops = some (outcomes, v)) (hheld : TicketsHeld ops outcomes)
    (hfed : FedWith Set.univ ops) : (new v).InService source zone where
  page := congrArg Page.render (source_of_run h)
  run := ⟨ops, outcomes, h, hheld, hfed⟩

/-- The servers in service that have given out some tickets, among others. -/
structure Serving (source : String) (zone : ViewerZone) (tickets : List Nat) (s : Server) : Prop where
  page : s.page = Page.render source
  run : ∃ ops outcomes, (fresh source zone).run ops = some (outcomes, s.viewer) ∧ TicketsHeld ops outcomes ∧
    FedWith Set.univ ops ∧ ∀ ticket ∈ tickets, .ticket ticket ∈ outcomes

theorem InService.serving (h : s.InService source zone) : s.Serving source zone [] := by
  obtain ⟨ops, outcomes, hrun, hheld, hfed⟩ := h.run
  exact ⟨h.page, ops, outcomes, hrun, hheld, hfed, fun ticket hticket => absurd hticket List.not_mem_nil⟩

namespace Serving

variable {tickets tickets' : List Nat}

theorem inService (h : s.Serving source zone tickets) : s.InService source zone := by
  obtain ⟨ops, outcomes, hrun, hheld, hfed, -⟩ := h.run
  exact ⟨h.page, ops, outcomes, hrun, hheld, hfed⟩

theorem mono (h : s.Serving source zone tickets) (hsub : ∀ ticket ∈ tickets', ticket ∈ tickets) :
    s.Serving source zone tickets' := by
  obtain ⟨ops, outcomes, hrun, hheld, hfed, hgiven⟩ := h.run
  exact ⟨h.page, ops, outcomes, hrun, hheld, hfed, fun ticket hticket => hgiven ticket (hsub ticket hticket)⟩

/-- Tickets count from one, and none is ahead of the last that was given out. -/
theorem ticket_le (h : s.Serving source zone tickets) {ticket : Nat} (hticket : ticket ∈ tickets) :
    0 < ticket ∧ ticket ≤ s.viewer.issued := by
  obtain ⟨ops, outcomes, hrun, -, -, hgiven⟩ := h.run
  obtain ⟨j, hj, hticket⟩ := List.getElem_of_mem (hgiven ticket hticket)
  rw [length_of_run hrun] at hj
  have hle := ticket_le_of_run hrun (List.getElem?_eq_some_iff.mpr ⟨_, hticket⟩) hj
  rwa [List.take_length, ← issued_run hrun] at hle

/-- One more operation, which may give out one more ticket. -/
theorem step (h : s.Serving source zone tickets) {op : Viewer.Operation} {outcome : Viewer.Outcome} {v : Viewer}
    (hstep : s.viewer.step op = some (outcome, v))
    (hop : ∀ ticket fetched, op = .finishLoad ticket fetched → ticket ∈ tickets)
    (hbrings : ∀ albums, op.brings? = some albums → ∃ text, Feed.parse text = .ok albums)
    (htickets : ∀ ticket ∈ tickets', ticket ∈ tickets ∨ outcome = .ticket ticket) :
    Serving source zone tickets' { s with viewer := v } := by
  obtain ⟨ops, outcomes, hrun, hheld, hfed, hgiven⟩ := h.run
  refine ⟨h.page, ops ++ [op], outcomes ++ [outcome], run_concat hrun hstep, ?_, ?_, ?_⟩
  · exact hheld.concat (length_of_run hrun) (fun ticket fetched heq => hgiven ticket (hop ticket fetched heq)) outcome
  · apply hfed.concat
    intro albums halbums
    obtain ⟨text, hparse⟩ := hbrings albums halbums
    exact ⟨text, trivial, hparse⟩
  · intro ticket hticket
    rcases htickets ticket hticket with hold | rfl
    · exact List.mem_append_left _ (hgiven ticket hold)
    · exact List.mem_append_right _ List.mem_cons_self

/-- A reload takes one more ticket. -/
theorem beginReload (h : s.Serving source zone tickets) :
    s.beginReload.2.Serving source zone (s.beginReload.1 :: tickets) := by
  have hbegun : s.viewer.step .beginLoad = some (.ticket s.beginReload.1, s.beginReload.2.viewer) := rfl
  refine h.step hbegun ?_ ?_ ?_
  · intro ticket fetched heq
    cases heq
  · intro albums halbums
    cases halbums
  · intro ticket hticket
    rcases List.mem_cons.mp hticket with rfl | hold
    · exact Or.inr rfl
    · exact Or.inl hold

/-- A reload ends with a ticket that has been given out, and brings nothing but a feed. -/
theorem finishReload (h : s.Serving source zone tickets) {ticket : Nat} (hticket : ticket ∈ tickets)
    (hfetched : Feed.Brings fetched) : (s.finishReload ticket fetched).2.Serving source zone tickets := by
  have hfinished : s.viewer.step (.finishLoad ticket fetched) =
      some (.finished (s.finishReload ticket fetched).1, (s.finishReload ticket fetched).2.viewer) := rfl
  refine h.step hfinished ?_ (fun _ => hfetched.exists_text) fun _ => Or.inl
  intro other brought heq
  cases heq
  exact hticket

/-- A request that is answered in one go. -/
theorem handle (h : s.Serving source zone tickets) (hfetched : Feed.Brings fetched)
    (hhandle : s.handle fetched r = some (response, s')) : s'.Serving source zone tickets := by
  have hanswered := handle_answered hhandle
  generalize response.status = status at hanswered
  cases hanswered with
  | shown | refused => exact h
  | done op _ hstep hmakes =>
      refine h.step hstep ?_ ?_ fun _ => Or.inl
      · rintro ticket fetched rfl
        exact hmakes.elim
      · intro albums halbums
        cases op with
        | load brought =>
            cases hmakes
            exact hfetched.exists_text halbums
        | finishLoad => cases hmakes
        | _ => cases halbums
  | unfetched => exact h.beginReload.mono fun _ => List.mem_cons_of_mem _

end Serving

namespace InService

theorem zone_eq (h : s.InService source zone) : s.viewer.zone = zone := by
  obtain ⟨ops, outcomes, hrun, -⟩ := h.run
  exact zone_of_run hrun

theorem inStep (h : s.InService source zone) : s.viewer.InStep := by
  obtain ⟨ops, outcomes, hrun, -⟩ := h.run
  exact inStep_of_run hrun

theorem holds (h : s.InService source zone) :
    s.viewer.Holds fun a => ∃ members, a = Album.ofMembers members := by
  obtain ⟨ops, outcomes, hrun, -, hfed⟩ := h.run
  exact holds_of_run hrun hfed

/-- A request leaves a server in service. -/
theorem handle (h : s.InService source zone) (hfetched : Feed.Brings fetched)
    (hhandle : s.handle fetched r = some (response, s')) : s'.InService source zone :=
  (h.serving.handle hfetched hhandle).inService

end InService

/-- A feed whose names have to be escaped: the id has all the separators of a query, and the folder has no name. -/
def sampleFeed : String :=
  "[\x7b\"ID\":\"a&b=c?d%e+f\",\"ruta_\":\"p/cara\",\"imagenes\":[\"p/cara/1.jpg\",\"p/cuerpo/1.jpg\"]\x7d," ++
    "\x7b\"ID\":2,\"fecha\":\"2024-01-05\"\x7d]"

def sampleAlbums : List Album :=
  [⟨"a&b=c?d%e+f", none, none, [⟨"", "p/cara"⟩], ["p/cara/1.jpg", "p/cuerpo/1.jpg"]⟩,
    ⟨"2", some (.instant ⟨1704412800, 0⟩), none, [], []⟩]

theorem parse_sampleFeed : Feed.parse sampleFeed = .ok sampleAlbums := by decide +kernel

/-- A server that has loaded this feed. -/
def sampleServer : Server := new ((fresh "albums.json" Zone.utc).load (.ok sampleAlbums)).2

theorem inService_sampleServer : sampleServer.InService "albums.json" Zone.utc := by
  have hrun : (fresh "albums.json" Zone.utc).run [.load (.ok sampleAlbums)] =
      some ([.loaded (.ok 2)], sampleServer.viewer) := rfl
  refine inService_new hrun ?_ ?_
  · intro i ticket fetched hi
    cases List.mem_singleton.mp (List.mem_of_getElem? hi)
  · intro op hop albums hbrings
    cases List.mem_singleton.mp hop
    cases hbrings
    exact ⟨sampleFeed, trivial, parse_sampleFeed⟩

end Web.Server

end AlbumBrowser
