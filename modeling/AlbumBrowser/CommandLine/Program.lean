import AlbumBrowser.CommandLine.Argument
import AlbumBrowser.Terminal.Screen
import AlbumBrowser.Viewer

/-!
What the program does with an invocation once the feed has been fetched: the screens that it writes, and
the failures that it ends with.
-/

namespace AlbumBrowser.CommandLine

open Terminal

inductive Failure where
  | load (e : LoadError)
  | unknownAlbum (id : String) (count : Nat)
  | unknownFolder (id key : String)
  | nothingOpen
  deriving DecidableEq, Repr

namespace Failure

def message : Failure → String
  | load e => e.message
  | unknownAlbum id count =>
    "Album " ++ id ++ " introuvable parmi " ++ String.ofList (Text.digits count) ++ " albums"
  | unknownFolder id key => "L'album " ++ id ++ " n'a pas de dossier «" ++ key ++ "»"
  | nothingOpen => "Aucun album ouvert"

/-- What lies behind a failure, where its message does not say all. -/
def cause? : Failure → Option String
  | load e => e.cause?
  | _ => none

/-- The report of a failure that ends the program. -/
def report (f : Failure) : String :=
  "Error: " ++ f.message ++
    (match f.cause? with
      | some cause => "\n\nCaused by:\n    " ++ cause
      | none => "") ++ "\n"

end Failure

/-- The view of an operation that needs an open album. -/
def opened : Option (Option AlbumView × Viewer) → Option (Except Failure (AlbumView × Viewer))
  | none => none
  | some (some view, v) => some (.ok (view, v))
  | some (none, _) => some (.error .nothingOpen)

/-- Steps through the images of the open album, starting from a view of it. -/
def stepThrough (step : Viewer → Option (Option AlbumView × Viewer)) (view : AlbumView) (v : Viewer) :
    Nat → Option (Except Failure (AlbumView × Viewer))
  | 0 => some (.ok (view, v))
  | n + 1 =>
    match opened (step v) with
    | none => none
    | some (.error e) => some (.error e)
    | some (.ok (view, v)) => stepThrough step view v n

/-- The album with an id, at a folder if one is named, that many images on; back if negative. -/
def browse (v : Viewer) (id : String) (folder : Option String) (steps : Int) :
    Option (Except Failure AlbumView) := do
  match ← v.openAlbum id with
  | (none, _) => return .error (.unknownAlbum id v.gallery.albums.length)
  | (some view, v) =>
    match folder with
    | none => return .ok view
    | some key =>
      if !view.folders.any (·.key = key) then return .error (.unknownFolder id key)
      match ← opened (v.selectFolder key) with
      | .error e => return .error e
      | .ok (view, v) =>
        let result ← stepThrough (if 0 < steps then Viewer.next else Viewer.prev) view v steps.natAbs
        return result.map (·.1)

/-- A viewer after its first load. -/
def loaded (source : String) (zone : ViewerZone) (fetched : Fetched) : Except Failure Viewer :=
  match ({ source := source, zone := zone } : Viewer).load fetched with
  | (.error e, _) => .error (.load e)
  | (.ok _, v) => .ok v

/-- The screen of the command that lists albums. -/
def listScreen (source : String) (zone : ViewerZone) (criteria : Criteria) (fetched : Fetched) :
    Option (Except Failure (List Line)) :=
  match loaded source zone fetched with
  | .error e => some (.error e)
  | .ok v => (v.filter criteria).map fun (view, _) => .ok (header source ++ view.screen)

/-- The screen of the command that shows an album. -/
def albumScreen (source : String) (zone : ViewerZone) (id : String) (folder : Option String) (steps : Int)
    (fetched : Fetched) : Option (Except Failure (List Line)) :=
  match loaded source zone fetched with
  | .error e => some (.error e)
  | .ok v => (browse v id folder steps).map (·.map fun view => header source ++ view.screen)

/-- A mark that something has gone well. -/
def success : Span := bold (some .green) "✔"

/-- What is written when a server has made its first load. -/
def firstLoadLines (source : String) : Except LoadError LoadOutcome → List Line
  | .ok (.applied count) =>
    [[.plain "  ", success, .plain " ", bold (some .green) (String.ofList (Text.digits count)),
      .plain " albums chargés depuis ", bold (some .white) source]]
  | .ok .stale => []
  | .error e => [[.plain "  ", warning, .plain (" Chargement impossible : " ++ e.message)]]

/-- What is written when a server is ready for requests. -/
def readyLines (port : Nat) : List Line :=
  [[.plain "  ", success, .plain " Visionneuse disponible sur ",
      bold (some .cyan) ("http://localhost:" ++ String.ofList (Text.digits port))],
    [.plain "  ", bold (some .yellow) "Ctrl+C", .plain " pour arrêter"]]

/-- What is written when a server has been stopped. -/
def stoppedLines : List Line := [[.plain "  ", success, .plain " Serveur arrêté"]]

/-- What a run of the program leaves behind. -/
structure Transcript where
  exitCode : Nat
  output : String
  errors : String
  deriving DecidableEq, Repr

namespace Transcript

/-- A refused command line. -/
def refused : Transcript := ⟨2, "", ""⟩

def ofScreen (colours : Bool) : Except Failure (List Line) → Transcript
  | .ok lines => ⟨0, Terminal.render colours lines, ""⟩
  | .error e => ⟨1, "", e.report⟩

/-- A whole run without colours, given what the feed comes to and the machine's zone. A server is stopped as
soon as it is ready. -/
def ofInvocation (fetch : String → Fetched) (i : Invocation) (machine : ViewerZone := Zone.utc) :
    Option Transcript :=
  let zone := i.zoneOr machine
  match i.command with
  | .list source criteria => (listScreen source zone criteria (fetch source)).map (ofScreen false)
  | .album source id folder steps =>
    (albumScreen source zone id folder steps (fetch source)).map (ofScreen false)
  | .serve source port =>
    let (outcome, _) := ({ source := source, zone := zone } : Viewer).reload (fetch source)
    some ⟨0, Terminal.render false (firstLoadLines source outcome ++ readyLines port ++ stoppedLines), ""⟩

end Transcript

end AlbumBrowser.CommandLine
