import AlbumBrowser.Text.Segment
import AlbumBrowser.Timestamp

/-!
Albums: one person's record with its images, and the folders through which the images are browsed. A
folder is a path, and an image belongs to it when the last segment of that path occurs in the image's
own path.
-/

namespace AlbumBrowser

structure Folder where
  /-- The name by which the folder is chosen. -/
  key : String
  path : String
  deriving DecidableEq, Repr

/-- The last segment of the folder's path. -/
def Folder.label (f : Folder) : String := String.ofList (Text.lastPiece '/' f.path.toList)

/-- Whether an image belongs to the folder. -/
def Folder.contains (f : Folder) (image : String) : Bool := Text.occursIn f.label.toList image.toList

structure DescriptionEntry where
  key : String
  value : String
  deriving DecidableEq, Repr

structure Album where
  id : String
  timestamp : Option Timestamp
  /-- Absent when the feed sent no description, which is not the same as an empty one. -/
  description : Option (List DescriptionEntry)
  folders : List Folder
  images : List String
  deriving DecidableEq, Repr

namespace Album

/-- The entries of the description; none if it is absent. -/
def entries (a : Album) : List DescriptionEntry := a.description.getD []

def hasDescription (a : Album) : Bool := a.entries ≠ []

/-- The first folder with a given key. -/
def folder? (a : Album) (key : String) : Option Folder := a.folders.find? (·.key = key)

/-- The images that belong to a folder, in the order of the album. -/
def folderImages (a : Album) (f : Folder) : List String := a.images.filter f.contains

end Album

end AlbumBrowser
