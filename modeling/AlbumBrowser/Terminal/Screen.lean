import AlbumBrowser.Terminal.Span
import AlbumBrowser.View

/-!
The views of a gallery as lines on a terminal.
-/

namespace AlbumBrowser

open Terminal

namespace Terminal

def bold (colour : Option Colour) (s : String) : Span := ⟨s.toList, { colour := colour, bold := true }⟩

def dim (s : String) : Span := ⟨s.toList, { dim := true }⟩

/-- A mark that something is missing. -/
def warning : Span := bold (some .yellow) "!"

/-- What is shown in place of an absent description. -/
def noDescription : String := "Sans description"

/-- The lines above a view: the program and the source of the albums. -/
def header (source : String) : List Line :=
  [[], [bold (some .cyan) "album-viewer", .plain "  ", dim "·", .plain "  ", bold (some .white) source], []]

end Terminal

/-- A card: the id, which is set to the right in four columns, the label and the date. -/
def Card.line (c : Card) : Line :=
  [.plain "  ", ⟨c.id.toList.leftpad 4 ' ', { dim := true }⟩, .plain "  ", bold (some .white) c.label,
    .plain "  ", ⟨c.date.toList, { colour := some .cyan }⟩]

/-- How many albums are shown, and whether a filter is in force. -/
def GalleryView.countLine (v : GalleryView) : Line :=
  [.plain "  ", bold (some .green) v.countLabel] ++ if v.filtered then [dim " (filtré)"] else []

/-- The gallery as a list. -/
def GalleryView.screen (v : GalleryView) : List Line :=
  v.countLine ::
    if v.cards = [] then [[.plain "  ", warning, .plain " Aucun album."]] else v.cards.map (·.line)

def DescriptionLine.line (l : DescriptionLine) : Line :=
  [.plain "  ", bold none l.label, .plain ": ", .plain l.value]

/-- A folder in the row of folders; the chosen one stands in brackets. -/
def FolderButton.span (active : Option String) (b : FolderButton) : Span :=
  if active = some b.key then bold (some .cyan) ("[" ++ b.label ++ "]") else dim (" " ++ b.label ++ " ")

namespace AlbumView

/-- The description, or that there is none. -/
def descriptionLines (v : AlbumView) : List Line :=
  match v.description with
  | none => [[.plain "  ", dim noDescription]]
  | some lines => lines.map (·.line)

/-- The row of folders, if there are any. -/
def folderLines (v : AlbumView) : List Line :=
  if v.folders = [] then []
  else [.plain "  " :: dim "Dossiers" :: .plain "  " ::
    (v.folders.map (·.span v.activeFolder)).intersperse (.plain " ")]

/-- The current image and its place, or that the chosen folder is empty. -/
def imageLines (v : AlbumView) : List Line :=
  match v.image with
  | some image =>
    let place := String.ofList (Text.digits v.position ++ '/' :: Text.digits v.total)
    [[.plain "  ", bold (some .yellow) place, .plain " ", dim "·", .plain "  ", .plain image]]
  | none => if v.activeFolder.isSome then [[.plain "  ", warning, .plain " Dossier vide."]] else []

/-- The open album. -/
def screen (v : AlbumView) : List Line :=
  [[.plain "  ", bold (some .cyan) v.title]] ++
    (if v.date = "" then [] else [[.plain "  ", dim v.date]]) ++ [[]] ++
    v.descriptionLines ++ [[]] ++ v.folderLines ++ v.imageLines

end AlbumView

end AlbumBrowser
