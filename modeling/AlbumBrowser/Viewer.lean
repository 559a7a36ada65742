import AlbumBrowser.Feed
import AlbumBrowser.Filter
import AlbumBrowser.View

/-!
A viewer drives a gallery: it loads feeds, filters, and browses the open album. Loads may overlap. Each
takes a ticket when it begins, and a result is installed only if no load with a later ticket has been
installed before it. Its operations are data, and a run of them is a fold; an operation that would have
to show a time outside the kept years has no outcome.
-/

namespace AlbumBrowser

structure Viewer where
  /-- Where the albums come from, as shown to the user. -/
  source : String
  zone : ViewerZone
  gallery : Gallery := {}
  criteria : Criteria := Criteria.anything
  /-- The last ticket that was handed out. Tickets are words of 64 bits, and loads are never so many that they
  run out. -/
  issued : Nat := 0
  /-- The last ticket whose load was installed. -/
  applied : Nat := 0

inductive LoadOutcome where
  /-- The list was installed; it has that many albums. -/
  | applied (count : Nat)
  /-- A later load had been installed before. -/
  | stale
  deriving DecidableEq, Repr

namespace Viewer

/-- Takes a ticket for a load. -/
def beginLoad (v : Viewer) : Nat × Viewer := (v.issued + 1, { v with issued := v.issued + 1 })

/-- Installs what a load has fetched, unless a later load was installed before. All of a new list is
shown. -/
def finishLoad (v : Viewer) (ticket : Nat) : Fetched → Except LoadError LoadOutcome × Viewer
  | .error e => (.error e, v)
  | .ok albums =>
    if ticket ≤ v.applied then (.ok .stale, v)
    else (.ok (.applied albums.length),
      { v with gallery := v.gallery.replace albums, criteria := Criteria.anything, applied := ticket })

/-- Takes a ticket and finishes the load at once. -/
def reload (v : Viewer) (fetched : Fetched) : Except LoadError LoadOutcome × Viewer :=
  let (ticket, v) := v.beginLoad
  v.finishLoad ticket fetched

/-- The number of loaded albums after a load that succeeded. -/
def load (v : Viewer) (fetched : Fetched) : Except LoadError Nat × Viewer :=
  let (outcome, v) := v.reload fetched
  (outcome.map fun _ => v.gallery.albums.length, v)

def galleryView (v : Viewer) : Option GalleryView := v.gallery.galleryView v.zone !v.criteria.isDefault

def albumView (v : Viewer) : Option (Option AlbumView) := v.gallery.albumView v.zone

/-- Shows the albums that pass new criteria; they are chosen among all that are loaded. -/
def filter (v : Viewer) (c : Criteria) : Option (GalleryView × Viewer) := do
  let visible ← c.keep v.zone v.gallery.albums
  let v := { v with gallery := v.gallery.setVisible visible, criteria := c }
  return (← v.galleryView, v)

def resetFilter (v : Viewer) : Option (GalleryView × Viewer) := v.filter Criteria.anything

/-- A change of the gallery followed by a look at the open album. -/
def browse (v : Viewer) (change : Gallery → Gallery) : Option (Option AlbumView × Viewer) := do
  let v := { v with gallery := change v.gallery }
  return (← v.albumView, v)

/-- Opens the first loaded album with an id; without one nothing changes and nothing is shown. -/
def openAlbum (v : Viewer) (id : String) : Option (Option AlbumView × Viewer) :=
  match v.gallery.find? id with
  | some a => v.browse (·.openAlbum a)
  | none => some (none, v)

/-- Chooses a folder of the open album; a key that it does not have changes nothing. -/
def selectFolder (v : Viewer) (key : String) : Option (Option AlbumView × Viewer) :=
  v.browse fun g => (g.select? key).getD g

def next (v : Viewer) : Option (Option AlbumView × Viewer) := v.browse (·.next)

def prev (v : Viewer) : Option (Option AlbumView × Viewer) := v.browse (·.prev)

def close (v : Viewer) : Viewer := { v with gallery := v.gallery.close }

/-- What can be asked of a viewer. -/
inductive Operation where
  | load (fetched : Fetched)
  | beginLoad
  | finishLoad (ticket : Nat) (fetched : Fetched)
  | filter (c : Criteria)
  | resetFilter
  | galleryView
  | criteria
  | openAlbum (id : String)
  | selectFolder (key : String)
  | next
  | prev
  | close
  | albumView

/-- What an operation gives back. -/
inductive Outcome where
  | loaded (result : Except LoadError Nat)
  | ticket (n : Nat)
  | finished (result : Except LoadError LoadOutcome)
  | gallery (view : GalleryView)
  | criteria (c : Criteria)
  | album (view : Option AlbumView)
  | closed

/-- One operation: its outcome and the viewer afterwards. -/
def step (v : Viewer) : Operation → Option (Outcome × Viewer)
  | .load fetched => let (result, v) := v.load fetched; some (.loaded result, v)
  | .beginLoad => let (ticket, v) := v.beginLoad; some (.ticket ticket, v)
  | .finishLoad ticket fetched => let (result, v) := v.finishLoad ticket fetched; some (.finished result, v)
  | .filter c => (v.filter c).map fun (view, v) => (.gallery view, v)
  | .resetFilter => v.resetFilter.map fun (view, v) => (.gallery view, v)
  | .galleryView => v.galleryView.map fun view => (.gallery view, v)
  | .criteria => some (.criteria v.criteria, v)
  | .openAlbum id => (v.openAlbum id).map fun (view, v) => (.album view, v)
  | .selectFolder key => (v.selectFolder key).map fun (view, v) => (.album view, v)
  | .next => v.next.map fun (view, v) => (.album view, v)
  | .prev => v.prev.map fun (view, v) => (.album view, v)
  | .close => some (.closed, v.close)
  | .albumView => v.albumView.map fun view => (.album view, v)

/-- The outcomes of a list of operations, one after the other, and the viewer at the end. -/
def run (v : Viewer) : List Operation → Option (List Outcome × Viewer)
  | [] => some ([], v)
  | op :: ops => do
    let (outcome, v) ← v.step op
    let (outcomes, v) ← run v ops
    return (outcome :: outcomes, v)

end Viewer

end AlbumBrowser
