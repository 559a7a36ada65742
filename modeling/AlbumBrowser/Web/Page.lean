import AlbumBrowser.Web.Page.Script
import AlbumBrowser.Web.Page.Style

/-!
The viewer's page. All albums are asked for by its script; only the name of their source is written into
the page itself, with the characters that have a meaning in HTML replaced.
-/

namespace AlbumBrowser.Web.Page

/-- How a character with a meaning in HTML is written in text. -/
structure Reference where
  char : Char
  written : List Char
  deriving DecidableEq, Repr

/-- A text with every occurrence of the character written that way. -/
def Reference.replaceIn (r : Reference) (s : List Char) : List Char :=
  s.flatMap fun c => if c = r.char then r.written else [c]

/-- The references that are used, in the order in which characters are replaced. The ampersand comes first, since the
others are written with one. -/
def references : List Reference :=
  [⟨'&', "&amp;".toList⟩, ⟨'<', "&lt;".toList⟩, ⟨'>', "&gt;".toList⟩, ⟨'"', "&quot;".toList⟩]

/-- A text as it is written in a page. The replacements are made one after the other, each in all of the text. -/
def escape (s : String) : String := String.ofList (references.foldl (fun text r => r.replaceIn text) s.toList)

/-- The lines before the style sheet. -/
def opening : List String :=
  ["<!DOCTYPE html>",
    "<html lang=\"fr\">",
    "<head>",
    "<meta charset=\"utf-8\">",
    "<meta name=\"viewport\" content=\"width=device-width,initial-scale=1\">",
    "<title>album-viewer</title>",
    "<style>"]

/-- The lines between the style sheet and the line with the source. -/
def header : List String :=
  ["</style>",
    "</head>",
    "<body>",
    "<header>",
    "  <div>",
    "    <h1>album-viewer</h1>"]

/-- The lines between the line with the source and the script. -/
def body : List String :=
  ["  </div>",
    "  <span id=\"photoCount\"></span>",
    "</header>",
    "<div class=\"filter-bar\">",
    "  <label>Date <input type=\"date\" id=\"dateInput\"></label>",
    "  <label>De <input type=\"time\" id=\"startTime\"></label>",
    "  <label>À <input type=\"time\" id=\"endTime\"></label>",
    "  <label>Mot-clé <input type=\"text\" id=\"keywordInput\"></label>",
    "  <label><input type=\"checkbox\" id=\"includeWithoutDescription\" checked> Sans description</label>",
    "  <button id=\"searchBtn\">Filtrer</button>",
    "  <button id=\"resetFiltersBtn\">Réinitialiser</button>",
    "  <button id=\"reloadBtn\">Recharger</button>",
    "</div>",
    "<div id=\"error\"></div>",
    "<main>",
    "  <div class=\"grid\" id=\"galleryContainer\"></div>",
    "</main>",
    "",
    "<div class=\"modal\" id=\"photoModal\">",
    "  <span class=\"modal-close\" id=\"modalClose\">&times;</span>",
    "  <h2 id=\"modalTitle\"></h2>",
    "  <div class=\"date\" id=\"modalDate\"></div>",
    "  <div id=\"modalDescription\"></div>",
    "  <div class=\"folders\" id=\"folderButtons\"></div>",
    "  <div class=\"viewer\">",
    "    <span class=\"nav\" id=\"prevBtn\">&#8249;</span>",
    "    <img id=\"modalImage\" src=\"\" alt=\"\">",
    "    <span class=\"nav\" id=\"nextBtn\">&#8250;</span>",
    "  </div>",
    "  <div class=\"position\" id=\"modalPosition\"></div>",
    "</div>",
    "",
    "<script>"]

/-- The lines behind the script. -/
def closing : List String :=
  ["</script>",
    "</body>",
    "</html>"]

/-- The page up to the name of the source. -/
def before : String := String.intercalate "\n" (opening ++ style ++ header ++ ["    <div class=\"source\">"])

/-- The page behind the name of the source. -/
def after : String := String.intercalate "\n" (["</div>"] ++ body ++ script ++ closing)

/-- The page for a source. -/
def render (source : String) : String := before ++ escape source ++ after

end AlbumBrowser.Web.Page
