import AlbumBrowser.Calendar.Moment
import AlbumBrowser.Text.Numeral
import AlbumBrowser.Text.Trim

/-!
Layouts of written dates and times. A layout is a list of pieces, and the same layout is read and
written: writing gives every field its full width, while reading also takes shorter numbers and
white space in front of a number.
-/

namespace AlbumBrowser.Calendar

open Text

inductive Field where
  | year
  | month
  | day
  | hour
  | minute
  | second
  /-- A point and digits of a second, or nothing. -/
  | fraction
  deriving DecidableEq, Repr

inductive Piece where
  | field (f : Field)
  | text (c : Char)
  /-- White space: written as one space, read as any amount of it. -/
  | gap
  deriving DecidableEq, Repr

abbrev Layout := List Piece

/-- What a layout that lacks a field leaves it at. -/
def Civil.zero : Civil := ⟨⟨0, 1, 1⟩, 0, 0, 0, 0⟩

/-- Nanoseconds written by the digits after the point; digits past the ninth do not count. -/
def nanosOfDigits (digits : List Char) : Nat :=
  ofDigits (digits.take 9) * Nat.pow 10 (9 - digits.length)

/-- A point and at least one digit, read as nanoseconds; or nothing, read as none. -/
def takeFraction : List Char → Option (Nat × List Char)
  | '.' :: s =>
    let (run, rest) := splitDigits s.length s
    if run = [] then none else some (nanosOfDigits run, rest)
  | s => some (0, s)

/-- A year: up to four digits, or a sign and any number of digits. -/
def takeYear (s : List Char) : Option (Int × List Char) :=
  match s with
  | '+' :: rest => (takeNumber rest.length rest).map fun (n, rest) => (Int.ofNat n, rest)
  | '-' :: rest => (takeNumber rest.length rest).map fun (n, rest) => (-Int.ofNat n, rest)
  | s => (takeNumber 4 s).map fun (n, rest) => (Int.ofNat n, rest)

/-- The text of a year: at least four digits, with a sign when it is negative or has more. -/
def yearText (year : Int) : List Char :=
  if year < 0 then '-' :: paddedDigits 4 year.natAbs
  else if year ≤ 9999 then paddedDigits 4 year.natAbs
  else '+' :: paddedDigits 4 year.natAbs

/-- Reads one field from the start of a text into a date and time. -/
def Field.read (f : Field) (c : Civil) (s : List Char) : Option (Civil × List Char) :=
  match f with
  | .year => (takeYear (trimStart s)).map fun (n, rest) => ({ c with date.year := n }, rest)
  | .month => (takeNumber 2 (trimStart s)).map fun (n, rest) => ({ c with date.month := n }, rest)
  | .day => (takeNumber 2 (trimStart s)).map fun (n, rest) => ({ c with date.day := n }, rest)
  | .hour => (takeNumber 2 (trimStart s)).map fun (n, rest) => ({ c with hour := n }, rest)
  | .minute => (takeNumber 2 (trimStart s)).map fun (n, rest) => ({ c with minute := n }, rest)
  | .second => (takeNumber 2 (trimStart s)).map fun (n, rest) => ({ c with second := n }, rest)
  | .fraction => (takeFraction s).map fun (n, rest) => ({ c with nano := n }, rest)

def Field.write (f : Field) (c : Civil) : List Char :=
  match f with
  | .year => yearText c.date.year
  | .month => paddedDigits 2 c.date.month
  | .day => paddedDigits 2 c.date.day
  | .hour => paddedDigits 2 c.hour
  | .minute => paddedDigits 2 c.minute
  | .second => paddedDigits 2 c.second
  | .fraction => if c.nano = 0 then [] else '.' :: paddedDigits 9 c.nano

def Piece.read (p : Piece) (c : Civil) (s : List Char) : Option (Civil × List Char) :=
  match p with
  | .field f => f.read c s
  | .text x => match s with
    | y :: rest => if y = x then some (c, rest) else none
    | [] => none
  | .gap => some (c, trimStart s)

def Piece.write (p : Piece) (c : Civil) : List Char :=
  match p with
  | .field f => f.write c
  | .text x => [x]
  | .gap => [' ']

namespace Layout

/-- Reads the pieces one after the other and gives what was read and the rest of the text. -/
def readFrom : Layout → Civil → List Char → Option (Civil × List Char)
  | [], c, s => some (c, s)
  | p :: layout, c, s => (p.read c s).bind fun (c, rest) => readFrom layout c rest

/-- The date and time that a whole text writes in this layout, if it names one that exists. -/
def read (layout : Layout) (s : List Char) : Option Civil :=
  match readFrom layout Civil.zero s with
  | some (c, []) => if c.Valid then some c else none
  | _ => none

def write (layout : Layout) (c : Civil) : List Char := layout.flatMap (·.write c)

/-- `YYYY-MM-DD` -/
def date : Layout := [.field .year, .text '-', .field .month, .text '-', .field .day]

/-- `HH:MM` -/
def clock : Layout := [.field .hour, .text ':', .field .minute]

/-- `HH:MM:SS` and a fraction -/
def clockToFraction : Layout := clock ++ [.text ':', .field .second, .field .fraction]

/-- `DD/MM/YYYY HH:MM` -/
def display : Layout :=
  [.field .day, .text '/', .field .month, .text '/', .field .year, .gap] ++ clock

/-- `HH:MM:00` -/
def clockKey : Layout := clock ++ [.text ':', .text '0', .text '0']

end Layout

end AlbumBrowser.Calendar
