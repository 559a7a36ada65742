import AlbumBrowser.Calendar.Layout

/-!
Dates and times with an offset from the zero meridian, in the fixed-width form of RFC 3339: no field
may be shorter than written, and nothing may be left out but the fraction of a second.
-/

namespace AlbumBrowser.Calendar.OffsetTime

open Text

/-- Removes one character that satisfies a test. -/
def expect (test : Char → Bool) : List Char → Option (List Char)
  | c :: rest => if test c then some rest else none
  | [] => none

/-- An offset from the zero meridian in seconds, east positive: `Z`, or a sign, two digits, a colon
and two digits. The minus sign may also be U+2212. -/
def takeOffset : List Char → Option (Int × List Char)
  | [] => none
  | c :: s =>
    if c = 'Z' ∨ c = 'z' then some (0, s)
    else if c = '+' ∨ c = '-' ∨ c = '\u2212' then do
      let (hours, s) ← takeExactly 2 s
      let s ← expect (· = ':') s
      let (minutes, s) ← takeExactly 2 s
      if hours ≤ 23 ∧ minutes ≤ 59 then
        let seconds : Int := 3600 * hours + 60 * minutes
        some (if c = '+' then seconds else -seconds, s)
      else none
    else none

/-- The date and time at the start of a text; a `T` or one space stands between the two. -/
def takeCivil (s : List Char) : Option (Civil × List Char) := do
  let (year, s) ← takeExactly 4 s
  let s ← expect (· = '-') s
  let (month, s) ← takeExactly 2 s
  let s ← expect (· = '-') s
  let (day, s) ← takeExactly 2 s
  let s ← expect (fun c => c = 'T' || c = 't' || c = ' ') s
  let (hour, s) ← takeExactly 2 s
  let s ← expect (· = ':') s
  let (minute, s) ← takeExactly 2 s
  let s ← expect (· = ':') s
  let (second, s) ← takeExactly 2 s
  let (nano, s) ← takeFraction s
  some (⟨⟨year, month, day⟩, hour, minute, second, nano⟩, s)

/-- The moment that a whole text names. -/
def read (s : List Char) : Option Moment := do
  let (civil, s) ← takeCivil s
  let (offset, s) ← takeOffset s
  if s = [] ∧ civil.Valid then some (civil.moment.shift (-offset)) else none

end AlbumBrowser.Calendar.OffsetTime
