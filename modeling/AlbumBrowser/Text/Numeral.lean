/-!
Decimal and hexadecimal numerals in ASCII digits: reading them from the start of a text, and writing
them padded to a width.
-/

namespace AlbumBrowser.Text

/-- The value of a run of decimal digits, the most significant first. -/
def ofDigits (digits : List Char) : Nat := Nat.ofDigitChars 10 digits 0

/-- The decimal numeral of a number, without leading zeros. -/
def digits (n : Nat) : List Char := Nat.toDigits 10 n

/-- The numeral of `n` with zeros in front up to `width` digits. -/
def paddedDigits (width n : Nat) : List Char := (digits n).leftpad width '0'

/-- The decimal numeral of a whole number, with a minus sign below zero. -/
def signedDigits : Int → List Char
  | .ofNat n => digits n
  | .negSucc n => '-' :: digits (n + 1)

/-- The longest run of at most `limit` digits at the start of a text, and the rest. -/
def splitDigits : Nat → List Char → List Char × List Char
  | limit + 1, c :: rest =>
    if c.isDigit then
      let (run, after) := splitDigits limit rest
      (c :: run, after)
    else ([], c :: rest)
  | _, s => ([], s)

theorem splitDigits_append (limit : Nat) (s : List Char) :
    (splitDigits limit s).1 ++ (splitDigits limit s).2 = s := by
  fun_induction splitDigits limit s <;> simp_all

theorem all_splitDigits (limit : Nat) (s : List Char) : (splitDigits limit s).1.all Char.isDigit := by
  fun_induction splitDigits limit s <;> simp_all

theorem length_splitDigits_le (limit : Nat) (s : List Char) : (splitDigits limit s).1.length ≤ limit := by
  fun_induction splitDigits limit s <;> simp_all

/-- A number of one to `limit` digits at the start of a text, and the rest. -/
def takeNumber (limit : Nat) (s : List Char) : Option (Nat × List Char) :=
  let (run, rest) := splitDigits limit s
  if run = [] then none else some (ofDigits run, rest)

/-- A number of exactly `width` digits at the start of a text, and the rest. -/
def takeExactly (width : Nat) (s : List Char) : Option (Nat × List Char) :=
  let (run, rest) := splitDigits width s
  if run.length = width then some (ofDigits run, rest) else none

/-- The value of a hexadecimal digit of either case. -/
def hexValue (c : Char) : Option Nat :=
  if c.isDigit then some (c.toNat - 48)
  else if 'a' ≤ c ∧ c ≤ 'f' then some (c.toNat - 87)
  else if 'A' ≤ c ∧ c ≤ 'F' then some (c.toNat - 55)
  else none

/-- The lower-case hexadecimal numeral of a number. -/
def hexDigits (n : Nat) : List Char := Nat.toDigits 16 n

/-- A number written with decimal digits only, at least one. -/
def number? (s : List Char) : Option Nat :=
  if s ≠ [] ∧ s.all Char.isDigit then some (ofDigits s) else none

/-- A whole number written with decimal digits, at least one, and an optional sign in front. -/
def signedNumber? : List Char → Option Int
  | '+' :: rest => (number? rest).map Int.ofNat
  | '-' :: rest => (number? rest).map fun n => -Int.ofNat n
  | s => (number? s).map Int.ofNat

end AlbumBrowser.Text
