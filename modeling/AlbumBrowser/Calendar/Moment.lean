import AlbumBrowser.Calendar.Date

/-!
Points on a clock that counts seconds from 1970 without leap seconds. A leap second is the second
before it with a fraction of one second or more.
-/

namespace AlbumBrowser.Calendar

/-- A point of time: seconds since 1970 and a fraction in nanoseconds, below two seconds. -/
structure Moment where
  second : Int
  nano : Nat
  deriving DecidableEq, Repr, Inhabited

/-- A date and time of day in its written fields; the second is 60 in a leap second. -/
structure Civil where
  date : Date
  hour : Nat
  minute : Nat
  second : Nat
  nano : Nat
  deriving DecidableEq, Repr, Inhabited

/-- The date exists, and the time of day is on the clock. -/
def Civil.Valid (c : Civil) : Prop :=
  c.date.Valid ∧ c.hour ≤ 23 ∧ c.minute ≤ 59 ∧ c.second ≤ 60

instance (c : Civil) : Decidable c.Valid := inferInstanceAs (Decidable (_ ∧ _))

/-- Seconds since midnight. -/
def Civil.secondOfDay (c : Civil) : Nat := 3600 * c.hour + 60 * c.minute + min 59 c.second

/-- The moment that a date and time of day name when read at the zero meridian. -/
def Civil.moment (c : Civil) : Moment where
  second := 86400 * c.date.dayNumber + c.secondOfDay
  nano := if c.second = 60 then c.nano + 1000000000 else c.nano

namespace Moment

/-- The first and last whole seconds of the kept years. -/
def firstSecond : Int := 86400 * (Date.mk firstYear 1 1).dayNumber
def lastSecond : Int := 86400 * (Date.mk lastYear 12 31).dayNumber + 86399

/-- The moment lies in a year that dates are kept for. -/
def InCalendar (m : Moment) : Prop := firstSecond ≤ m.second ∧ m.second ≤ lastSecond

instance (m : Moment) : Decidable m.InCalendar := inferInstanceAs (Decidable (_ ∧ _))

/-- The moment a number of seconds later; the fraction stays. -/
def shift (m : Moment) (seconds : Int) : Moment := { m with second := m.second + seconds }

/-- The moment a number of milliseconds after the start of 1970. -/
def ofMillis (millis : Int) : Moment where
  second := millis / 1000
  nano := (millis % 1000).toNat * 1000000

def date (m : Moment) : Date := Date.ofDayNumber (m.second / 86400)

def secondOfDay (m : Moment) : Nat := (m.second % 86400).toNat

/-- The date and time of day at a moment, as seen at the zero meridian. -/
def civil (m : Moment) : Civil where
  date := m.date
  hour := m.secondOfDay / 3600
  minute := m.secondOfDay / 60 % 60
  second := if m.nano < 1000000000 then m.secondOfDay % 60 else m.secondOfDay % 60 + 1
  nano := m.nano % 1000000000

end Moment

end AlbumBrowser.Calendar
