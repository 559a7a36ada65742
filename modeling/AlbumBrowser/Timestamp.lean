import AlbumBrowser.Calendar.OffsetTime

/-!
When an album was recorded. A feed writes this in one of eight shapes or as a count of milliseconds;
what it writes in no known shape is kept as text, so that it can be shown as unreadable.
-/

namespace AlbumBrowser

open Calendar Text

inductive Timestamp where
  /-- A point of time: written with an offset, as a bare date, or in milliseconds. -/
  | instant (m : Moment)
  /-- A date and time already as the viewer's clock shows it, kept as if at the zero meridian. -/
  | wallClock (m : Moment)
  /-- A text in no known shape. -/
  | unreadable (text : String)
  deriving DecidableEq, Repr

namespace Timestamp

/-- A date and a time of day with a given separator between them. -/
def dateAnd (separator : Piece) (time : Layout) : Layout := Layout.date ++ separator :: time

/-- The layouts without an offset that still name a point of time: a date, which is its midnight, and
a date and time without seconds marked `Z`. -/
def instantLayouts : List Layout :=
  [Layout.date, dateAnd (.text 'T') (Layout.clock ++ [.text 'Z']), dateAnd .gap (Layout.clock ++ [.text 'Z'])]

/-- The layouts without an offset that name a time on the viewer's clock. -/
def wallClockLayouts : List Layout :=
  [dateAnd (.text 'T') Layout.clockToFraction, dateAnd (.text 'T') Layout.clock,
    dateAnd .gap Layout.clockToFraction, dateAnd .gap Layout.clock]

/-- The ways to read a timestamp, in the order in which they are tried. -/
def readers : List (List Char → Option Timestamp) :=
  (fun s => (OffsetTime.read s).map instant) ::
    instantLayouts.map (fun l s => (l.read s).map (instant ·.moment)) ++
    wallClockLayouts.map (fun l s => (l.read s).map (wallClock ·.moment))

/-- The timestamp that a text writes, with white space around it dropped; an empty text writes
none. -/
def parse (raw : String) : Option Timestamp :=
  let s := trim raw.toList
  if s = [] then none
  else some ((readers.findSome? (· s)).getD (unreadable (String.ofList s)))

/-- The timestamp that many milliseconds after the start of 1970. -/
def ofMillis (millis : Int) : Timestamp :=
  if (Moment.ofMillis millis).InCalendar then instant (Moment.ofMillis millis)
  else unreadable (String.ofList (signedDigits millis))

end Timestamp

end AlbumBrowser
