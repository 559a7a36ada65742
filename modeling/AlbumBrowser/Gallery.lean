import AlbumBrowser.Album

/-!
The state of a gallery: the loaded albums, those of them that are shown, and the album that is open with
the folder and the image that it is open at. The open album is kept by value, so it outlives the list
that it came from; the images of the chosen folder are picked out once, when it is chosen.
-/

namespace AlbumBrowser

structure OpenAlbum where
  album : Album
  /-- The key of the chosen folder. -/
  folder : Option String := none
  /-- The images of the chosen folder; none before one is chosen. -/
  images : List String := []
  /-- The place of the current image among them. -/
  cursor : Nat := 0
  deriving DecidableEq, Repr

namespace OpenAlbum

/-- The image at the cursor, if there is one. -/
def image? (o : OpenAlbum) : Option String := o.images[o.cursor]?

/-- Moves the cursor by a rule that knows the number of images; without a folder or images it stays. -/
def move (rule : (count cursor : Nat) → Nat) (o : OpenAlbum) : OpenAlbum :=
  if o.folder.isSome ∧ o.images ≠ [] then { o with cursor := rule o.images.length o.cursor } else o

@[simp] theorem album_move (rule : Nat → Nat → Nat) (o : OpenAlbum) : (o.move rule).album = o.album := by
  unfold move
  split <;> rfl

/-- The next image; the first follows the last. -/
def next : OpenAlbum → OpenAlbum := move fun count cursor => (cursor + 1) % count

/-- The previous image; the last comes before the first. -/
def prev : OpenAlbum → OpenAlbum := move fun count cursor => (cursor + count - 1) % count

/-- Chooses the folder with a given key and goes to its first image. -/
def select? (o : OpenAlbum) (key : String) : Option OpenAlbum :=
  (o.album.folder? key).map fun f =>
    { o with folder := some f.key, images := o.album.folderImages f, cursor := 0 }

end OpenAlbum

inductive Phase where
  | closed
  /-- An album is open and no folder has been chosen. -/
  | noFolder
  | folder
  deriving DecidableEq, Repr

structure Gallery where
  albums : List Album := []
  visible : List Album := []
  opened : Option OpenAlbum := none
  deriving DecidableEq, Repr, Inhabited

namespace Gallery

/-- Takes a new list of albums and shows all of it. -/
def replace (g : Gallery) (albums : List Album) : Gallery := { g with albums := albums, visible := albums }

def setVisible (g : Gallery) (albums : List Album) : Gallery := { g with visible := albums }

/-- The first loaded album with a given id, shown or not. -/
def find? (g : Gallery) (id : String) : Option Album := g.albums.find? (·.id = id)

def phase (g : Gallery) : Phase :=
  match g.opened with
  | none => .closed
  | some o => if o.folder.isNone then .noFolder else .folder

def openAlbum (g : Gallery) (a : Album) : Gallery := { g with opened := some { album := a } }

/-- Chooses a folder of the open album; nothing without an open album or such a folder. -/
def select? (g : Gallery) (key : String) : Option Gallery :=
  (g.opened.bind (·.select? key)).map fun o => { g with opened := some o }

def next (g : Gallery) : Gallery := { g with opened := g.opened.map (·.next) }

def prev (g : Gallery) : Gallery := { g with opened := g.opened.map (·.prev) }

def close (g : Gallery) : Gallery := { g with opened := none }

/-- The key of the chosen folder. -/
def activeFolder (g : Gallery) : Option String := g.opened.bind (·.folder)

def images (g : Gallery) : List String := (g.opened.map (·.images)).getD []

def cursor (g : Gallery) : Nat := (g.opened.map (·.cursor)).getD 0

def image? (g : Gallery) : Option String := g.opened.bind (·.image?)

end Gallery

end AlbumBrowser
