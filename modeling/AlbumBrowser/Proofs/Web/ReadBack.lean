import AlbumBrowser.Proofs.Web.Answers
import AlbumBrowser.Proofs.Web.Service

/-!
What a request is answered is what the next look shows. An answer to a change is taken from the change itself,
by ways that differ from route to route, and a look asks the server anew; both show the state that the
change has left. So an answer with a view is given again, word for word, to the request that gets it.
-/

namespace AlbumBrowser

namespace Viewer

variable {v w : Viewer}

end Viewer

namespace Web

namespace Server

open Viewer

variable {source : String} {zone : ViewerZone} {s s' : Server} {fetched : Fetched} {r : Request} {response : Response}

/-- Every request on a route gets an answer and leaves the server as it is. -/
def Gives (s : Server) (route : Route) (response : Response) : Prop :=
  ∀ (fetched : Fetched) (r : Request), r.route = route → s.handle fetched r = some (response, s)

theorem gives_album {view : Option AlbumView} (h : s.viewer.albumView = some view) :
    s.Gives .album (.ok (.ofOption (·.toJson) view)) := by
  intro fetched r hroute
  rw [handle_eq_onRoute hroute (by decide), onRoute, h]
  rfl

theorem gives_gallery {view : GalleryView} (h : s.viewer.galleryView = some view) :
    s.Gives .gallery (.ok view.toJson) := by
  intro fetched r hroute
  rw [handle_eq_onRoute hroute (by decide), onRoute, h]
  rfl

theorem gives_criteria {c : Criteria} (h : s.viewer.criteria = c) : s.Gives .criteria (.ok c.toJson) := by
  intro fetched r hroute
  rw [handle_eq_onRoute hroute (by decide), onRoute, h]
  rfl

/-- The answer with the view that a look at a server shows. -/
inductive Shown (s : Server) : (look : Route) → Response → Prop where
  | album {view : AlbumView} (hview : s.viewer.albumView = some (some view)) : Shown s .album (.ok view.toJson)
  | gallery {view : GalleryView} (hview : s.viewer.galleryView = some view) : Shown s .gallery (.ok view.toJson)

namespace Shown

theorem gives {look : Route} (h : s.Shown look response) : s.Gives look response := by
  cases h with
  | album hview => exact gives_album hview
  | gallery hview => exact gives_gallery hview

theorem exists_gallery (h : s.Shown .gallery response) :
    ∃ view, s.viewer.galleryView = some view ∧ response.ShowsGallery view := by
  cases h with
  | gallery hview => exact ⟨_, hview, Response.showsGallery_ok _⟩

end Shown

/-! ### Routes -/

/-- A reload is answered with its failure or with what a look at the gallery shows. -/
theorem reloadAnswer_cases {outcome : Except LoadError LoadOutcome} (h : s.reloadAnswer outcome = some response) :
    (∃ e, outcome = .error e ∧ response = .failure 502 e.message) ∨
      (∃ loaded, outcome = .ok loaded) ∧ s.Shown .gallery response := by
  cases outcome with
  | error e =>
      cases h
      exact Or.inl ⟨e, rfl, rfl⟩
  | ok loaded =>
      obtain ⟨view, hview, rfl⟩ := Option.map_eq_some_iff.mp h
      exact Or.inr ⟨⟨loaded, rfl⟩, .gallery hview⟩

end Server

end Web

end AlbumBrowser
