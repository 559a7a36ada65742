import AlbumBrowser.Viewer
import AlbumBrowser.Web.Page
import AlbumBrowser.Web.Query

/-!
The web surface of a viewer: requests, the route that each takes, and the answers. A request that reloads
the feed is given what the fetch came to; all others need nothing from outside. The server is not held while a
feed is fetched, so a reload can also be made in its three parts, with other requests in between: it takes a
ticket, it ends with what was fetched, and it is answered.
-/

namespace AlbumBrowser.Web

structure Request where
  method : String
  /-- The path and, behind a question mark, the query. -/
  target : String
  body : ByteArray := .empty

structure Response where
  status : Nat
  contentType : String
  body : String
  deriving DecidableEq, Repr

namespace Response

def html (page : String) : Response := ⟨200, "text/html; charset=utf-8", page⟩

def json (status : Nat) (v : Json.Value) : Response := ⟨status, "application/json", v.text⟩

/-- A failure with its message. -/
def failure (status : Nat) (message : String) : Response :=
  json status (.object [("error", .string message)])

def ok (v : Json.Value) : Response := json 200 v

end Response

/-- What a request asks for. -/
inductive Route where
  | page
  | gallery
  | criteria
  | filter
  | resetFilter
  | reload
  | album
  | openAlbum
  | selectFolder
  | next
  | prev
  | close
  /-- No such thing to get. -/
  | unknown
  /-- No such thing to do. -/
  | refused
  deriving DecidableEq, Repr

namespace Route

/-- What can be got, by its path. -/
def gets : List (String × Route) :=
  [("/", page), ("/api/albums", gallery), ("/api/filters", criteria), ("/api/modal", album)]

/-- What can be done, by its path. -/
def posts : List (String × Route) :=
  [("/api/filters", filter), ("/api/filters/reset", resetFilter), ("/api/reload", reload),
    ("/api/open", openAlbum), ("/api/folder", selectFolder), ("/api/next", next), ("/api/prev", prev),
    ("/api/close", close)]

/-- The route of a method, whose letters may be of either case, and a path. -/
def of (method path : String) : Route :=
  if method.toUpper = "GET" then (gets.lookup path).getD unknown
  else if method.toUpper = "POST" then (posts.lookup path).getD refused
  else refused

end Route

namespace Request

def path (r : Request) : String := String.ofList (r.target.toList.takeWhile (· ≠ '?'))

def route (r : Request) : Route := .of r.method r.path

end Request

/-- A viewer and its page, which is made once. -/
structure Server where
  viewer : Viewer
  page : String

namespace Server

def new (v : Viewer) : Server := ⟨v, Page.render v.source⟩

/-- Takes a ticket for a reload, whose fetch may then take its time. -/
def beginReload (s : Server) : Nat × Server :=
  let (ticket, v) := s.viewer.beginLoad
  (ticket, { s with viewer := v })

/-- Ends the reload that has a ticket, with what its fetch has come to. -/
def finishReload (s : Server) (ticket : Nat) (fetched : Fetched) : Except LoadError LoadOutcome × Server :=
  let (outcome, v) := s.viewer.finishLoad ticket fetched
  (outcome, { s with viewer := v })

/-- The answer to a reload that has ended. The gallery is shown as it is by now, and also if the reload came too
late to change it. -/
def reloadAnswer (s : Server) : Except LoadError LoadOutcome → Option Response
  | .error e => some (.failure 502 e.message)
  | .ok _ => s.viewer.galleryView.map fun view => .ok view.toJson

/-- A reload with nothing in between. -/
def reload (s : Server) (fetched : Fetched) : Except LoadError LoadOutcome × Server :=
  let (ticket, s) := s.beginReload
  s.finishReload ticket fetched

/-- An answer that leaves the viewer as it is. -/
def answer (s : Server) (r : Response) : Response × Server := (r, s)

/-- The answer to a filter. -/
def galleryAnswer (s : Server) : GalleryView × Viewer → Response × Server
  | (view, v) => (.ok view.toJson, { s with viewer := v })

/-- The answer to a step in the open album, which is refused when none is open. -/
def albumAnswer (s : Server) : Option AlbumView × Viewer → Response × Server
  | (some view, v) => (.ok view.toJson, { s with viewer := v })
  | (none, v) => (.failure 409 "Aucun album ouvert", { s with viewer := v })

/-- Filters by the criteria in a body. -/
def postFilter (s : Server) (body : ByteArray) : Option (Response × Server) :=
  match String.fromUTF8? body with
  | none => some (s.answer (.failure 400 "Failed to read request body"))
  | some text =>
    match Criteria.read text with
    | .error e => some (s.answer (.failure 400 e.message))
    | .ok c => (s.viewer.filter c).map s.galleryAnswer

/-- Reloads and shows the gallery; after a failure the previous list is kept. -/
def postReload (s : Server) (fetched : Fetched) : Option (Response × Server) :=
  let (outcome, s) := s.reload fetched
  (s.reloadAnswer outcome).map s.answer

/-- Opens the album whose id is in the query. -/
def postOpen (s : Server) (q : Query) : Option (Response × Server) :=
  match q.get? "id" with
  | none => some (s.answer (.failure 400 "Paramètre id requis"))
  | some id => (s.viewer.openAlbum id).map fun
    | (some view, v) => (.ok view.toJson, { s with viewer := v })
    | (none, v) => (.failure 404 "Album introuvable", { s with viewer := v })

/-- Chooses the folder whose key is in the query. -/
def postFolder (s : Server) (q : Query) : Option (Response × Server) :=
  match q.get? "key" with
  | none => some (s.answer (.failure 400 "Paramètre key requis"))
  | some key => do
    match ← s.viewer.albumView with
    | none => return s.answer (.failure 409 "Aucun album ouvert")
    | some view =>
      if view.folders.any (·.key = key) then return s.albumAnswer (← s.viewer.selectFolder key)
      else return s.answer (.failure 404 "Dossier introuvable")

/-- The answer to a request on its route; `fetched` is what a fetch of the feed came to, if the route is
that of a reload. -/
def onRoute (s : Server) (fetched : Fetched) (r : Request) : Route → Option (Response × Server)
  | .page => some (s.answer (.html s.page))
  | .gallery => s.viewer.galleryView.map fun view => s.answer (.ok view.toJson)
  | .criteria => some (s.answer (.ok s.viewer.criteria.toJson))
  | .album => s.viewer.albumView.map fun view => s.answer (.ok (.ofOption (·.toJson) view))
  | .filter => s.postFilter r.body
  | .resetFilter => s.viewer.resetFilter.map s.galleryAnswer
  | .reload => s.postReload fetched
  | .openAlbum => s.postOpen (Query.ofTarget r.target)
  | .selectFolder => s.postFolder (Query.ofTarget r.target)
  | .next => s.viewer.next.map s.albumAnswer
  | .prev => s.viewer.prev.map s.albumAnswer
  | .close => some (.ok (.object [("ok", .string "Album fermé")]), { s with viewer := s.viewer.close })
  | .unknown => some (s.answer (.failure 404 "Ressource introuvable"))
  | .refused => some (s.answer (.failure 405 "Méthode non supportée"))

/-- The answer to a request and the server afterwards. The answer to a `HEAD` has no body. -/
def handle (s : Server) (fetched : Fetched) (r : Request) : Option (Response × Server) := do
  let (response, s) ← s.onRoute fetched r r.route
  return (if r.method.toUpper = "HEAD" then { response with body := "" } else response, s)

end Server

end AlbumBrowser.Web
