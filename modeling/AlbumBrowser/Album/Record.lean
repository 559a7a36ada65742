import AlbumBrowser.Album
import AlbumBrowser.Json.Record
import AlbumBrowser.Json.Writer

/-!
The record of an album in a feed. Four members have a meaning of their own; of the others, those whose
names begin with a mark and whose values are non-empty strings are the album's folders, and the rest is
ignored. No kind of value is refused: what cannot be used counts as absent.
-/

namespace AlbumBrowser

open Json Text

/-- The timestamp in a feed: a text, or a number of milliseconds whose fraction is dropped. -/
def Timestamp.ofJson : Json.Value → Option Timestamp
  | .null => none
  | .string s => parse s
  | .number (.whole n) => some (ofMillis (min n Int64.maxValue.toInt))
  | .number (.float x) => some (ofMillis x.toInt64.toInt)
  | v => some (unreadable v.text)

namespace Album

/-- The members of an album's record; an absent one is null. -/
structure Record where
  id : Json.Value := .null
  timestamp : Json.Value := .null
  description : Json.Value := .null
  images : Json.Value := .null
  /-- All other members in their order. -/
  attributes : List (String × Json.Value) := []
  deriving Inhabited

/-- The four members with a meaning of their own. -/
inductive Member where
  | id
  | timestamp
  | description
  | images
  deriving DecidableEq, Repr

namespace Member

def name : Member → String
  | id => "ID"
  | timestamp => "fecha"
  | description => "descripcion"
  | images => "imagenes"

def all : List Member := [id, timestamp, description, images]

def ofName? (name : String) : Option Member := all.find? (·.name = name)

end Member

namespace Record

def set (r : Record) (m : Member) (v : Json.Value) : Record :=
  match m with
  | .id => { r with id := v }
  | .timestamp => { r with timestamp := v }
  | .description => { r with description := v }
  | .images => { r with images := v }

/-- Adds a member to a record. -/
def add (r : Record) (name : String) (v : Json.Value) : Record :=
  match Member.ofName? name with
  | some m => r.set m v
  | none => { r with attributes := insertMember name v r.attributes }

/-- The record that an object's members make up. -/
def ofMembers (members : List (String × Json.Value)) : Record :=
  members.foldl (fun r (name, v) => r.add name v) {}

/-- What the names of folder members begin with. -/
def folderMark : String := "ruta_"

/-- The folder that a member describes, if it describes one. -/
def folder? (member : String × Json.Value) : Option Folder := do
  let key ← behind? folderMark.toList member.1.toList
  let path ← member.2.asString?
  if path = "" then none else some { key := String.ofList key, path := path }

/-- The album that a record describes. -/
def toAlbum (r : Record) : Album where
  id := r.id.plainText
  timestamp := Timestamp.ofJson r.timestamp
  description := r.description.asObject?.map (·.map fun (key, v) => ⟨key, v.plainText⟩)
  folders := r.attributes.filterMap Record.folder?
  images := (r.images.asArray?.getD []).filterMap (·.asString?)

/-- What has been read of a record, and which of the four members. -/
structure Progress where
  record : Record := {}
  seen : List Member := []

namespace Progress

/-- Whether a name is that of one of the four members and has been read before. -/
def repeats (p : Progress) (name : String) : Bool := (Member.ofName? name).any (· ∈ p.seen)

/-- Takes in the value of a member. -/
def put (p : Progress) (name : String) (v : Json.Value) : Progress where
  record := p.record.add name v
  seen := (Member.ofName? name).toList ++ p.seen

end Progress

/-- Takes in a member; one of the four may be given only once. -/
def takeMember (p : Progress) (member : String × Json.Value) : Except Json.Cause Progress :=
  if p.repeats member.1 then .error (.duplicateMember member.1) else .ok (p.put member.1 member.2)

/-- The record that a list of members makes up. -/
def decode (members : List (String × Json.Value)) : Except Json.Cause Record :=
  (members.foldlM takeMember {}).map (·.record)

/-- Reads the value of a member; one of the four may be given only once. -/
def readMember (p : Progress) (name : String) : Json.Reader Progress := fun s =>
  if p.repeats name then .error (duplicateMember name s)
  else (memberValue (value (depthLimit - 1)) s).map fun (v, s) => (p.put name v, s)

/-- What a record is called in a message. -/
def described : String := "struct RawAlbum"

def reader : Json.Reader Record := fun s =>
  match skipSpace s with
  | [] => .error (.before .endInValue [])
  | c :: rest =>
    if c = '\x7b' then
      (foldMembers readMember rest true {} rest).map fun (p, s) => (p.record, s)
    else .error (wrongKind described (c :: rest))

end Record

/-- The album that an object's members describe. -/
def ofMembers (members : List (String × Json.Value)) : Album := (Record.ofMembers members).toAlbum

/-- The album that a value describes. Only an object describes one. -/
def ofValue : Json.Value → Except Json.Cause Album
  | .object members => (Record.decode members).map (·.toAlbum)
  | v => .error (.wrongKind (String.ofList v.described) Record.described)

/-- The album that a text describes by itself. -/
def read (text : String) : Except Json.Error Album := (readWhole Record.reader text).map (·.toAlbum)

end Album

end AlbumBrowser
