import AlbumBrowser.Timestamp
import AlbumBrowser.Text.Segment

/-!
Time zones and the texts that they give to timestamps. A zone is a fixed offset from the zero meridian. A
viewer goes by such a zone or by the machine's own, whose offset may be another at every point of time. A
point of time whose clock reading in the zone falls outside the kept years has no text.
-/

namespace AlbumBrowser

open Calendar Text

/-- An offset from the zero meridian in seconds, east positive, of less than a day. -/
structure Zone where
  offset : Int
  gt_neg_day : -86400 < offset := by decide
  lt_day : offset < 86400 := by decide
  deriving DecidableEq, Repr

/-- A text that names no zone. -/
structure ZoneError where
  text : String
  deriving DecidableEq, Repr

def ZoneError.message (e : ZoneError) : String :=
  "Décalage UTC invalide : " ++ e.text ++ " (attendu : +HH:MM)"

namespace Zone

def utc : Zone := { offset := 0 }

instance : Inhabited Zone := ⟨utc⟩

/-- The zone with an offset, if it is less than a day. -/
def ofSeconds? (seconds : Int) : Option Zone :=
  if h : -86400 < seconds ∧ seconds < 86400 then some ⟨seconds, h.1, h.2⟩ else none

/-- A whole number that a word of 32 bits holds. -/
def FitsWord (n : Int) : Prop := Int32.minValue.toInt ≤ n ∧ n ≤ Int32.maxValue.toInt

instance (n : Int) : Decidable (FitsWord n) := inferInstanceAs (Decidable (_ ∧ _))

/-- A whole number as a word of 32 bits, if it fits. -/
def toWord? (n : Int) : Option Int32 := if FitsWord n then some (Int32.ofInt n) else none

/-- A signed number that fits in 32 bits. -/
def word? (s : List Char) : Option Int32 := (signedNumber? s).bind toWord?

/-- The offset written after its sign: hours, then minutes after a colon if there is one. The fields
are words of 32 bits and bounded from above only. -/
def fields? (s : List Char) : Option (Int32 × Int32) := do
  let (hours, minutes) := (cut? ':' s).getD (s, ['0'])
  let hours ← word? hours
  let minutes ← word? minutes
  if hours > 23 ∨ minutes > 59 then none else some (hours, minutes)

/-- The offset in seconds. It is reckoned in words of 32 bits, and there is none if a step leaves them. -/
def seconds? (sign hours minutes : Int32) : Option Int32 := do
  let ofHours ← toWord? (hours.toInt * 3600)
  let ofMinutes ← toWord? (minutes.toInt * 60)
  let sum ← toWord? (ofHours.toInt + ofMinutes.toInt)
  toWord? (sign.toInt * sum.toInt)

/-- The zone that a text names, if it names one; nothing at all where the reckoning leaves the words. -/
def parseTrimmed : List Char → Option (Option Zone)
  | [] => some none
  | c :: rest =>
    if (c :: rest).map Char.toLower = ['z'] ∨ (c :: rest).map Char.toLower = ['u', 't', 'c'] then some (some utc)
    else if c = '+' ∨ c = '-' then
      match fields? rest with
      | none => some none
      | some (hours, minutes) =>
        (seconds? (if c = '+' then 1 else -1) hours minutes).map fun offset => ofSeconds? offset.toInt
    else some none

/-- The zone that a text names: `Z`, `UTC`, or a signed offset. A text whose offset leaves the words that it is
reckoned in has no outcome. -/
def parse (raw : String) : Option (Except ZoneError Zone) :=
  let s := trim raw.toList
  (parseTrimmed s).map fun
    | some zone => .ok zone
    | none => .error ⟨String.ofList s⟩

/-- What the viewer's clock shows at a point of time; nothing outside the kept years. -/
def wallClock? (zone : Zone) (m : Moment) : Option Moment :=
  if (m.shift zone.offset).InCalendar then some (m.shift zone.offset) else none

/-- What an unreadable timestamp is shown as. -/
def unreadableText : String := "Invalid Date"

/-- The text of a timestamp in a layout. An absent one has the empty text. -/
def render (zone : Zone) (layout : Layout) : Option Timestamp → Option String
  | none => some ""
  | some (.instant m) => (zone.wallClock? m).map fun m => String.ofList (layout.write m.civil)
  | some (.wallClock m) => some (String.ofList (layout.write m.civil))
  | some (.unreadable _) => some unreadableText

/-- `DD/MM/YYYY HH:MM`, as cards and album views show it. -/
def display (zone : Zone) (t : Option Timestamp) : Option String := zone.render Layout.display t

/-- `YYYY-MM-DD`, which a date filter is compared with. -/
def dateKey (zone : Zone) (t : Option Timestamp) : Option String := zone.render Layout.date t

/-- `HH:MM:00`, which the bounds of a time filter are compared with. -/
def clockKey (zone : Zone) (t : Option Timestamp) : Option String := zone.render Layout.clockKey t

end Zone

/-- The zone of a viewer. -/
inductive ViewerZone where
  | fixed (zone : Zone)
  /-- The machine's own, by the zone that is in force at each point of time. -/
  | machine (zoneAt : Moment → Zone)

namespace ViewerZone

instance : Coe Zone ViewerZone := ⟨fixed⟩

/-- The zone in force at a point of time. -/
def zoneAt : ViewerZone → Moment → Zone
  | fixed zone, _ => zone
  | machine zoneAt, m => zoneAt m

/-- The zone that a timestamp is shown in. Only a point of time depends on it. -/
def zoneFor (zone : ViewerZone) : Option Timestamp → Zone
  | some (.instant m) => zone.zoneAt m
  | _ => Zone.utc

/-- `DD/MM/YYYY HH:MM`, in the zone in force. -/
def display (zone : ViewerZone) (t : Option Timestamp) : Option String := (zone.zoneFor t).display t

/-- `YYYY-MM-DD`, in the zone in force. -/
def dateKey (zone : ViewerZone) (t : Option Timestamp) : Option String := (zone.zoneFor t).dateKey t

/-- `HH:MM:00`, in the zone in force. -/
def clockKey (zone : ViewerZone) (t : Option Timestamp) : Option String := (zone.zoneFor t).clockKey t

/-- In a fixed zone all timestamps are shown in that zone. -/
theorem render_zoneFor_fixed (zone : Zone) (layout : Layout) (t : Option Timestamp) :
    ((fixed zone).zoneFor t).render layout t = zone.render layout t := by
  rcases t with _ | ⟨_ | _ | _⟩ <;> rfl

@[simp] theorem dateKey_fixed (zone : Zone) (t : Option Timestamp) :
    (fixed zone).dateKey t = zone.dateKey t := render_zoneFor_fixed zone Layout.date t

@[simp] theorem clockKey_fixed (zone : Zone) (t : Option Timestamp) :
    (fixed zone).clockKey t = zone.clockKey t := render_zoneFor_fixed zone Layout.clockKey t

end ViewerZone

end AlbumBrowser
