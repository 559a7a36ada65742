import AlbumBrowser.Gallery
import AlbumBrowser.Json.Writer
import AlbumBrowser.Label
import AlbumBrowser.Zone

/-!
What a gallery shows: the list of its cards, and the album that is open. A view holds texts and numbers
only, so that a terminal and a page can draw the same one.
-/

namespace AlbumBrowser

structure Card where
  id : String
  label : String
  date : String
  deriving DecidableEq, Repr

structure GalleryView where
  count : Nat
  countLabel : String
  /-- Whether criteria other than the open ones are in force. -/
  filtered : Bool
  cards : List Card
  deriving DecidableEq, Repr

structure DescriptionLine where
  label : String
  value : String
  deriving DecidableEq, Repr

structure FolderButton where
  label : String
  key : String
  deriving DecidableEq, Repr

structure AlbumView where
  id : String
  title : String
  date : String
  description : Option (List DescriptionLine)
  folders : List FolderButton
  activeFolder : Option String
  image : Option String
  /-- Counted from one; zero without an image. -/
  position : Nat
  total : Nat
  showNavigation : Bool
  deriving DecidableEq, Repr

/-- The card of an album, if its time can be shown in the zone. -/
def Album.card (zone : ViewerZone) (a : Album) : Option Card := do
  return { id := a.id, label := Label.ofId a.id, date := ← zone.display a.timestamp }

namespace Gallery

/-- The cards of the visible albums. -/
def galleryView (g : Gallery) (zone : ViewerZone) (filtered : Bool) : Option GalleryView := do
  let cards ← g.visible.mapM (·.card zone)
  return {
    count := cards.length
    countLabel := String.ofList (Text.digits cards.length) ++ " album(s)"
    filtered := filtered
    cards := cards }

end Gallery

/-- The view of an open album. -/
def OpenAlbum.view (o : OpenAlbum) (zone : ViewerZone) : Option AlbumView := do
  return {
    id := o.album.id
    title := Label.ofId o.album.id
    date := ← zone.display o.album.timestamp
    description := o.album.description.map (·.map fun e => ⟨Label.ofKey e.key, e.value⟩)
    folders := o.album.folders.map fun f => ⟨f.label, f.key⟩
    activeFolder := o.folder
    image := o.image?
    position := if o.image?.isSome then o.cursor + 1 else 0
    total := o.images.length
    showNavigation := o.folder.isSome && o.images ≠ [] }

/-- The view of the open album, or that none is open; the outer option is for times that cannot be
shown. -/
def Gallery.albumView (g : Gallery) (zone : ViewerZone) : Option (Option AlbumView) :=
  match g.opened with
  | none => some none
  | some o => (o.view zone).map some

namespace Json

/-- Null for what is absent. -/
def Value.ofOption {α : Type} (f : α → Value) : Option α → Value
  | some x => f x
  | none => .null

def Value.ofNat (n : Nat) : Value := .number (.whole n)

end Json

open Json

def Card.toJson (c : Card) : Json.Value :=
  .object [("id", .string c.id), ("label", .string c.label), ("date", .string c.date)]

def GalleryView.toJson (v : GalleryView) : Json.Value :=
  .object [("count", .ofNat v.count), ("count_label", .string v.countLabel), ("filtered", .bool v.filtered),
    ("albums", .array (v.cards.map (·.toJson)))]

def DescriptionLine.toJson (l : DescriptionLine) : Json.Value :=
  .object [("label", .string l.label), ("value", .string l.value)]

def FolderButton.toJson (b : FolderButton) : Json.Value :=
  .object [("label", .string b.label), ("key", .string b.key)]

def AlbumView.toJson (v : AlbumView) : Json.Value :=
  .object [("id", .string v.id), ("title", .string v.title), ("date", .string v.date),
    ("description", .ofOption (fun lines => .array (lines.map (·.toJson))) v.description),
    ("folders", .array (v.folders.map (·.toJson))),
    ("active_folder", .ofOption .string v.activeFolder), ("image", .ofOption .string v.image),
    ("position", .ofNat v.position), ("total", .ofNat v.total),
    ("show_navigation", .bool v.showNavigation)]

end AlbumBrowser
