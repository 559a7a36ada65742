import AlbumBrowser.Json.Record
import AlbumBrowser.Json.Skip
import AlbumBrowser.Json.Writer

/-!
The criteria by which albums are filtered, and their record in JSON. A record may leave members out and
may hold others, which are passed over; it may also be a list of the members in their order.
-/

namespace AlbumBrowser

open Json

/-- An empty text leaves its criterion open. -/
structure Criteria where
  /-- `YYYY-MM-DD` -/
  date : String := ""
  /-- `HH:MM` -/
  startTime : String := ""
  /-- `HH:MM` -/
  endTime : String := ""
  keyword : String := ""
  includeUndescribed : Bool := true
  deriving DecidableEq, Repr, Inhabited

namespace Criteria

/-- The criteria that every album meets. -/
def anything : Criteria := {}

def isDefault (c : Criteria) : Bool := c = anything

inductive Member where
  | date
  | startTime
  | endTime
  | keyword
  | includeUndescribed
  deriving DecidableEq, Repr

namespace Member

def name : Member → String
  | date => "date"
  | startTime => "start_time"
  | endTime => "end_time"
  | keyword => "keyword"
  | includeUndescribed => "include_without_description"

/-- The members in the order of the list form. -/
def all : List Member := [date, startTime, endTime, keyword, includeUndescribed]

def ofName? (name : String) : Option Member := all.find? (·.name = name)

def read (m : Member) (c : Criteria) : Json.Reader Criteria := fun s =>
  match m with
  | date => (stringValue s).map fun (x, s) => ({ c with date := x }, s)
  | startTime => (stringValue s).map fun (x, s) => ({ c with startTime := x }, s)
  | endTime => (stringValue s).map fun (x, s) => ({ c with endTime := x }, s)
  | keyword => (stringValue s).map fun (x, s) => ({ c with keyword := x }, s)
  | includeUndescribed => (boolValue s).map fun (x, s) => ({ c with includeUndescribed := x }, s)

def write (m : Member) (c : Criteria) : Json.Value :=
  match m with
  | date => .string c.date
  | startTime => .string c.startTime
  | endTime => .string c.endTime
  | keyword => .string c.keyword
  | includeUndescribed => .bool c.includeUndescribed

end Member

/-- What has been read of a record. -/
structure Progress where
  criteria : Criteria := anything
  seen : List Member := []

def readMember (p : Progress) (name : String) : Json.Reader Progress := fun s =>
  match Member.ofName? name with
  | none => do return (p, ← skipValue (← colon s))
  | some m =>
    if m ∈ p.seen then .error (duplicateMember name s)
    else (memberValue (m.read p.criteria) s).map fun (c, s) => (⟨c, m :: p.seen⟩, s)

/-- The list form: the members in their order, of which the last may be missing. -/
def readElements : List Member → (first : Bool) → Criteria → Json.Reader Criteria
  | [], _, c, s => (closeList s).map fun s => (c, s)
  | m :: others, first, c, s => do
    match ← nextElement first s with
    | none => (closeList s).map fun s => (c, s)
    | some s =>
      let (c, s) ← m.read c s
      readElements others false c s

def reader : Json.Reader Criteria := fun s =>
  match skipSpace s with
  | [] => .error (.before .endInValue [])
  | c :: rest =>
    if c = '\x7b' then
      (foldMembers readMember rest true {} rest).map fun (p, s) => (p.criteria, s)
    else if c = '[' then readElements Member.all true anything rest
    else .error (wrongKind "struct FilterCriteria" (c :: rest))

/-- The criteria that a text describes. -/
def read (text : String) : Except Json.Error Criteria := readWhole reader text

def toJson (c : Criteria) : Json.Value := .object (Member.all.map fun m => (m.name, m.write c))

end Criteria

end AlbumBrowser
