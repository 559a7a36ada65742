import AlbumBrowser.Album
import AlbumBrowser.Criteria
import AlbumBrowser.Unicode.Case
import AlbumBrowser.Zone

/-!
Which albums meet a set of criteria. An album passes when its date and its time of day match and it is
described, or albums without a description are wanted too, or the keyword occurs in its description.
Times are compared as texts. A test that has to place a point of time outside the kept years has no
answer.
-/

namespace AlbumBrowser

namespace Album

/-- Whether the album's date in a zone is the one given; an empty text matches every album. -/
def matchesDate (zone : ViewerZone) (date : String) (a : Album) : Option Bool :=
  if date = "" then some true else (zone.dateKey a.timestamp).map (· = date)

/-- Whether the album's time of day in a zone lies between two bounds, which belong to the range; an
empty bound is open. An album without a timestamp lies in every range. -/
def matchesTime (zone : ViewerZone) (startTime endTime : String) (a : Album) : Option Bool :=
  if a.timestamp = none then some true
  else (zone.clockKey a.timestamp).map fun key =>
    (startTime = "" ∨ ¬ key < startTime ++ ":00") ∧ (endTime = "" ∨ ¬ endTime ++ ":00" < key)

/-- Whether a keyword occurs in one of the values of the description, read in lower case. -/
def matchesKeyword (keyword : String) (a : Album) : Bool :=
  keyword = "" || a.entries.any fun e => Text.occursIn keyword.toList (Unicode.lower e.value.toList)

/-- Whether the album may be shown for its description or in spite of lacking one. -/
def describedOr (includeUndescribed : Bool) (a : Album) : Bool := a.hasDescription || includeUndescribed

end Album

namespace Criteria

/-- The keyword in lower case. -/
def loweredKeyword (c : Criteria) : String := String.ofList (Unicode.lower c.keyword.toList)

/-- Whether an album passes. A later test is not made when an earlier one fails. -/
def admits (c : Criteria) (zone : ViewerZone) (a : Album) : Option Bool := do
  if !(← a.matchesDate zone c.date) then return false
  if !(← a.matchesTime zone c.startTime c.endTime) then return false
  let hit := c.loweredKeyword ≠ "" && a.matchesKeyword c.loweredKeyword
  return hit || a.describedOr c.includeUndescribed

/-- The albums that pass, in their order. -/
def keep (c : Criteria) (zone : ViewerZone) : List Album → Option (List Album)
  | [] => some []
  | a :: rest => do
    if ← c.admits zone a then return a :: (← c.keep zone rest) else c.keep zone rest

end Criteria

end AlbumBrowser
