/-!
Days of the proleptic Gregorian calendar. A date and its day number (days since 1 January 1970) are
converted into each other by counting years from March, so that a leap day ends its year and every
length is a quotient by a constant: 146097 days in four centuries, 36524 in a century, 1461 in four
years, 365 in a year, and 153 in five months.
-/

namespace AlbumBrowser.Calendar

/-- The years that dates are kept for. -/
def firstYear : Int := -262143
def lastYear : Int := 262142

def isLeapYear (year : Int) : Bool := year % 4 = 0 && (year % 100 ≠ 0 || year % 400 = 0)

def daysInMonth (year : Int) (month : Nat) : Nat :=
  if month = 2 then (if isLeapYear year then 29 else 28)
  else if month = 4 ∨ month = 6 ∨ month = 9 ∨ month = 11 then 30
  else 31

structure Date where
  year : Int
  month : Nat
  day : Nat
  deriving DecidableEq, Repr, Inhabited

namespace Date

/-- The month is one of twelve and has the day; the year may be any. -/
def OnCalendar (d : Date) : Prop :=
  (1 ≤ d.month ∧ d.month ≤ 12) ∧ 1 ≤ d.day ∧ d.day ≤ daysInMonth d.year d.month

instance (d : Date) : Decidable d.OnCalendar := inferInstanceAs (Decidable (_ ∧ _))

/-- The date exists and its year is kept. -/
def Valid (d : Date) : Prop := (firstYear ≤ d.year ∧ d.year ≤ lastYear) ∧ d.OnCalendar

instance (d : Date) : Decidable d.Valid := inferInstanceAs (Decidable (_ ∧ _))

/-- The days from 1 March of year 0 to 1 January 1970. -/
def epoch : Int := 719468

/-- The days from 1 March of year 0 to 1 March of a year. -/
def yearStart (year : Int) : Int := 365 * year + year / 4 - year / 100 + year / 400

/-- The days from 1 March to the first of the month that comes `months` after March. -/
def monthStart (months : Nat) : Nat := (153 * months + 2) / 5

/-- The year that began on the last 1 March up to a date. -/
def marchYear (d : Date) : Int := if d.month ≤ 2 then d.year - 1 else d.year

/-- The full months from that 1 March to a date. -/
def marchMonth (d : Date) : Nat := (d.month + 9) % 12

/-- Days since 1 January 1970. -/
def dayNumber (d : Date) : Int := yearStart d.marchYear + (monthStart d.marchMonth + d.day : Nat) - 1 - epoch

/-- The year that begins on the last 1 March up to a day, and the days since then; days are counted
from 1 March of year 0. The last day of four centuries and of four years is kept inside its century
and its year, where the plain quotient would name the next. -/
def splitYear (days : Int) : Int × Nat :=
  let rest := (days % 146097).toNat
  let century := min 3 (rest / 36524)
  let rest := rest - 36524 * century
  let fourYears := rest / 1461
  let rest := rest % 1461
  let year := min 3 (rest / 365)
  (400 * (days / 146097) + (100 * century + 4 * fourYears + year : Nat), rest - 365 * year)

/-- A day of the month that comes `months` after March of a year. -/
def ofMarchMonth (year : Int) (months day : Nat) : Date :=
  if months < 10 then ⟨year, months + 3, day⟩ else ⟨year + 1, months - 9, day⟩

/-- The date that many days after 1 March of a year. -/
def ofMarch (year : Int) (days : Nat) : Date :=
  let months := (5 * days + 2) / 153
  ofMarchMonth year months (days - monthStart months + 1)

/-- The date with a given day number. -/
def ofDayNumber (n : Int) : Date :=
  let (year, days) := splitYear (n + epoch)
  ofMarch year days

end Date

end AlbumBrowser.Calendar
