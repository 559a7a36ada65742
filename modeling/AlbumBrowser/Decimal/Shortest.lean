import AlbumBrowser.Text.Numeral

/-!
The shortest decimal that a binary floating-point number is read back from. A finite number is taken
apart into an integer times a power of two; the decimals that round to it form an interval around it,
and the digits are those of the first decimal grid, from one digit up, with a point in that interval.
-/

namespace AlbumBrowser.Decimal

/-- The positive number `mantissa * 2 ^ exponent`. In a `narrow` one the next number below is only
half as far away as the next above. -/
structure Binary where
  mantissa : Nat
  exponent : Int
  narrow : Bool
  deriving DecidableEq, Repr

/-- The finite positive number with the given bits, the sign left out. -/
def Binary.ofBits (bits : UInt64) : Binary :=
  let fraction := (bits &&& 0xFFFFFFFFFFFFF).toNat
  let exponent := ((bits >>> 52) &&& 0x7FF).toNat
  if exponent = 0 then ⟨fraction, -1074, false⟩
  else ⟨fraction + 0x10000000000000, (exponent : Int) - 1075, fraction = 0 && exponent > 1⟩

/-- The number `significand * 10 ^ exponent`. -/
structure Scaled where
  significand : Nat
  exponent : Int
  deriving DecidableEq, Repr

/-- A fraction of natural numbers. -/
structure Ratio where
  numerator : Nat
  denominator : Nat

/-- How many steps of `10 ^ grid` the number `quarters / 4 * 2 ^ exponent` is long. -/
def steps (quarters : Nat) (exponent grid : Int) : Ratio where
  numerator := quarters * Nat.pow 2 (exponent - 2).toNat * Nat.pow 10 (-grid).toNat
  denominator := Nat.pow 2 (2 - exponent).toNat * Nat.pow 10 grid.toNat

/-- The points of the grid of step `10 ^ grid` next to a number that round to it, nearest first; of two
equally near the even one. -/
def neighbour? (b : Binary) (grid : Int) : Option Nat :=
  let value := steps (4 * b.mantissa) b.exponent grid
  let low := steps (4 * b.mantissa - (if b.narrow then 1 else 2)) b.exponent grid
  let high := steps (4 * b.mantissa + 2) b.exponent grid
  let rounds (n : Nat) : Bool :=
    if b.mantissa % 2 = 0 then
      low.numerator ≤ n * low.denominator && n * high.denominator ≤ high.numerator
    else low.numerator < n * low.denominator && n * high.denominator < high.numerator
  let below := value.numerator / value.denominator
  let excess := 2 * (value.numerator % value.denominator)
  let belowIsNearer : Bool :=
    excess < value.denominator || (excess = value.denominator && below % 2 = 0)
  match rounds below, rounds (below + 1) with
  | true, true => some (if belowIsNearer then below else below + 1)
  | true, false => some below
  | false, true => some (below + 1)
  | false, false => none

/-- The number of digits before the point, or minus the number of zeros right after it: the `p` with
`10 ^ (p - 1) ≤ value < 10 ^ p`. -/
def pointPosition (b : Binary) : Int :=
  let value := steps (4 * b.mantissa) b.exponent (-400)
  (Text.digits (value.numerator / value.denominator)).length - 400

/-- The first grid point found when the digits are counted up from one; seventeen always suffice. -/
def shortestFrom (b : Binary) (position : Int) (count : Nat) : Nat → Option Scaled
  | 0 => none
  | tries + 1 =>
    match neighbour? b (position - count) with
    | some n => some ⟨n, position - count⟩
    | none => shortestFrom b position (count + 1) tries

/-- A shortest decimal that rounds to a positive number, the nearest of those. -/
def shortest (b : Binary) : Scaled :=
  (shortestFrom b (pointPosition b) 1 17).getD ⟨0, 0⟩

/-- The digits of a decimal without zeros at their end, and the power of ten of the first. -/
def Scaled.scientific (d : Scaled) : List Char × Int :=
  let all := Text.digits d.significand
  let kept := (all.reverse.dropWhile (· = '0')).reverse
  (kept, d.exponent + all.length - 1)

end AlbumBrowser.Decimal
