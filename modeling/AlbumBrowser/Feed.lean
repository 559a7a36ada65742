import AlbumBrowser.Album.Record
import AlbumBrowser.Text.Utf8

/-!
Feeds of albums and the reasons why one cannot be loaded. The text of a feed is a list of album records.
-/

namespace AlbumBrowser

/-- Why a file could not be read. -/
inductive FileFault where
  | missing
  | isDirectory
  | notUtf8
  | other (description : String)
  deriving DecidableEq, Repr

def FileFault.message : FileFault → String
  | missing => "No such file or directory (os error 2)"
  | isDirectory => "Is a directory (os error 21)"
  | notUtf8 => "stream did not contain valid UTF-8"
  | other description => description

inductive LoadError where
  /-- The request got no answer. -/
  | network (url message : String)
  /-- The answer did not have a status of success. -/
  | status (url : String) (code : Nat)
  /-- The file could not be read. -/
  | io (path : String) (fault : FileFault)
  /-- The text is not JSON. -/
  | malformed (e : Json.Error)
  /-- The text is JSON, but not a list of objects. -/
  | notAList
  deriving DecidableEq, Repr

def LoadError.message : LoadError → String
  | network url message => "Requête vers " ++ url ++ " échouée : " ++ message
  | status url code => url ++ " a répondu " ++ String.ofList (Text.digits code)
  | io path _ => "Impossible de lire " ++ path
  | malformed e => "Réponse invalide : " ++ e.message
  | notAList => "La réponse n'est pas une liste d'albums"

/-- What lies behind an error, where its message does not say all. -/
def LoadError.cause? : LoadError → Option String
  | io _ fault => some fault.message
  | malformed e => some e.message
  | _ => none

/-- What a fetch of a feed comes to. -/
abbrev Fetched := Except LoadError (List Album)

/-- Where a feed is kept. -/
inductive Source where
  | web (url : String)
  | file (path : String)
  deriving DecidableEq, Repr

namespace Source

/-- A location that begins like a web address is one; any other is the path of a file. -/
def ofLocation (location : String) : Source :=
  if "http://".toList <+: location.toList ∨ "https://".toList <+: location.toList then web location
  else file location

def describe : Source → String
  | web url => url
  | file path => path

end Source

namespace Feed

/-- The elements of a list of objects. -/
def objects? : Json.Value → Option (List Json.Value)
  | .array items => if items.all (·.asObject?.isSome) then some items else none
  | _ => none

/-- The albums that a text lists. The text is read as JSON first, and then each object as a record. -/
def parse (text : String) : Except LoadError (List Album) :=
  match Json.read text with
  | .error e => .error (.malformed e)
  | .ok v =>
    match objects? v with
    | some items => (items.mapM Album.ofValue).mapError fun cause => .malformed cause.unplaced
    | none => .error .notAList

/-- The albums in a file with the given content, or why it has none. -/
def ofFile (path : String) : Except FileFault ByteArray → Fetched
  | .error fault => .error (.io path fault)
  | .ok bytes =>
    match String.fromUTF8? bytes with
    | some text => parse text
    | none => .error (.io path .notUtf8)

/-- The albums in the answer to a request. Bytes that are not UTF-8 are replaced. -/
def ofResponse (url : String) (status : Nat) (body : List UInt8) : Fetched :=
  if 200 ≤ status ∧ status ≤ 299 then parse (String.ofList (Text.decodeLossy body))
  else .error (.status url status)

end Feed

end AlbumBrowser
