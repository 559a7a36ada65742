import AlbumBrowser.Decimal.Shortest
import AlbumBrowser.Json.Fault
import AlbumBrowser.Json.Value

/-!
JSON numbers, written and read. A floating-point number is written with the fewest digits that read
back. It is read as a significand of at most 64 bits and a power of ten; the two are brought together
with at most three floating-point operations, so the last digit of a long numeral may be off by one.
-/

namespace AlbumBrowser.Json

open Text

namespace Number

/-- The powers of ten for which a floating-point number is written without an exponent. -/
def plainFrom : Int := -5
def plainTo : Int := 15

/-- The text of digits whose first has a given power of ten: plain, with a point in every case, or with
the point after the first digit and a signed exponent. -/
def placed (digits : List Char) (exponent : Int) : List Char :=
  if plainFrom ≤ exponent ∧ exponent ≤ plainTo then
    if exponent < 0 then '0' :: '.' :: (List.replicate (exponent.natAbs - 1) '0' ++ digits)
    else
      let before := exponent.toNat + 1
      let padded := digits ++ List.replicate (before - digits.length) '0'
      padded.take before ++ '.' :: (if digits.length ≤ before then ['0'] else padded.drop before)
  else
    let fraction := digits.drop 1
    digits.take 1 ++ (if fraction = [] then [] else '.' :: fraction) ++
      'e' :: (if exponent < 0 then '-' else '+') :: Text.digits exponent.natAbs

/-- The text of a finite floating-point number. -/
def floatText (x : Float) : List Char :=
  let bits := x.toBits
  let magnitude := bits &&& 0x7FFFFFFFFFFFFFFF
  let sign := if bits = magnitude then [] else ['-']
  if magnitude = 0 then sign ++ ['0', '.', '0']
  else
    let (digits, exponent) := (Decimal.shortest (.ofBits magnitude)).scientific
    sign ++ placed digits exponent

def text : Number → List Char
  | whole n => signedDigits n
  | float x => floatText x

end Number

/-- The digits of a numeral as they are met: a significand below `2 ^ 64` and a power of ten. -/
structure Numeral where
  significand : Nat
  exponent : Int
  deriving DecidableEq, Repr

/-- Adds a digit to a significand unless it would no longer fit in 64 bits. -/
def addDigit? (significand : Nat) (c : Char) : Option Nat :=
  let sum := 10 * significand + ofDigits [c]
  if sum < UInt64.size then some sum else none

/-- `significand * 10 ^ exponent` in floating point. A power beyond the largest is applied in parts. -/
def scale (x : Float) (exponent : Int) : Option Float :=
  if _h : exponent < -308 then
    if x == 0 then some x else scale (x / 1e308) (exponent + 308)
  else if exponent < 0 then some (x / Float.ofScientific 1 false exponent.natAbs)
  else if exponent ≤ 308 then
    let product := x * Float.ofScientific 1 false exponent.natAbs
    if product.isInf then none else some product
  else if x == 0 then some x else none
termination_by (-exponent).toNat
decreasing_by omega

/-- The floating-point number of a numeral that ends before `rest`. -/
def floatBefore (negative : Bool) (n : Numeral) (rest : List Char) : Except Fault (Number × List Char) :=
  match scale n.significand.toUInt64.toFloat n.exponent with
  | some x => .ok (.float (if negative then -x else x), rest)
  | none => .error (.before .numberOutOfRange rest)

/-- The numeral moved by a power of ten, up or down. -/
def Numeral.raise (n : Numeral) (down : Bool) (power : Nat) : Numeral :=
  { n with exponent := if down then n.exponent - power else n.exponent + power }

/-- The digits of an exponent after the first. A positive exponent above 32 bits is out of range unless
the significand is zero; a negative one gives zero. -/
def exponentDigits (negative : Bool) (n : Numeral) (down : Bool) (exponent : Nat) : Reader Number
  | [] => floatBefore negative (n.raise down exponent) []
  | c :: rest =>
    if c.isDigit then
      let sum := 10 * exponent + ofDigits [c]
      if sum < 0x80000000 then exponentDigits negative n down sum rest
      else if n.significand ≠ 0 ∧ !down then .error (.before .numberOutOfRange rest)
      else .ok (.float (if negative then -0.0 else 0.0), rest.dropWhile Char.isDigit)
    else floatBefore negative (n.raise down exponent) (c :: rest)

/-- What follows the letter of an exponent. -/
def exponentPart (negative : Bool) (n : Numeral) : Reader Number := fun s =>
  let (down, s) := match s with
    | '+' :: rest => (false, rest)
    | '-' :: rest => (true, rest)
    | _ => (false, s)
  match s with
  | [] => .error (.before .endInValue [])
  | c :: rest =>
    if c.isDigit then exponentDigits negative n down (ofDigits [c]) rest
    else .error (.at .invalidNumber (c :: rest))

/-- The end of a numeral: an exponent if there is one. -/
def exponentOrEnd (negative : Bool) (n : Numeral) : Reader Number
  | [] => floatBefore negative n []
  | c :: rest =>
    if c = 'e' ∨ c = 'E' then exponentPart negative n rest else floatBefore negative n (c :: rest)

/-- The digits after the point, at least one of them unless one was `seen`. Those that no longer fit
are dropped. -/
def fractionDigits (negative : Bool) (n : Numeral) (seen : Bool) : Reader Number
  | [] => if seen then exponentOrEnd negative n [] else .error (.before .endInValue [])
  | c :: rest =>
    if c.isDigit then
      match addDigit? n.significand c with
      | some significand => fractionDigits negative ⟨significand, n.exponent - 1⟩ true rest
      | none => exponentOrEnd negative n (rest.dropWhile Char.isDigit)
    else if seen then exponentOrEnd negative n (c :: rest)
    else .error (.at .invalidNumber (c :: rest))

/-- The digits of a whole number that no longer fit: each is a power of ten. -/
def overlongDigits (negative : Bool) (n : Numeral) : Reader Number
  | [] => floatBefore negative n []
  | c :: rest =>
    if c.isDigit then overlongDigits negative { n with exponent := n.exponent + 1 } rest
    else if c = '.' then fractionDigits negative n false rest
    else exponentOrEnd negative n (c :: rest)

/-- A whole number of 64 bits if it fits; minus zero, and what is below them, are floating-point. -/
def wholeOrFloat (negative : Bool) (n : Nat) : Number :=
  if !negative then .whole n
  else if 1 ≤ n ∧ n ≤ 0x8000000000000000 then .whole (-n)
  else .float (-n.toUInt64.toFloat)

/-- What follows the whole part of a numeral. -/
def afterWhole (negative : Bool) (n : Nat) : Reader Number
  | [] => .ok (wholeOrFloat negative n, [])
  | c :: rest =>
    if c = '.' then fractionDigits negative ⟨n, 0⟩ false rest
    else if c = 'e' ∨ c = 'E' then exponentPart negative ⟨n, 0⟩ rest
    else .ok (wholeOrFloat negative n, c :: rest)

/-- The digits of the whole part after the first. -/
def wholeDigits (negative : Bool) (n : Nat) : Reader Number
  | [] => afterWhole negative n []
  | c :: rest =>
    if c.isDigit then
      match addDigit? n c with
      | some sum => wholeDigits negative sum rest
      | none => overlongDigits negative ⟨n, 1⟩ rest
    else afterWhole negative n (c :: rest)

/-- A number without its sign. A zero in front of further digits is refused. -/
def number (negative : Bool) : Reader Number
  | [] => .error (.before .endInValue [])
  | c :: rest =>
    if c = '0' then
      match rest with
      | d :: _ => if d.isDigit then .error (.at .invalidNumber rest) else afterWhole negative 0 rest
      | [] => afterWhole negative 0 rest
    else if c.isDigit then wholeDigits negative (ofDigits [c]) rest
    else .error (.at .invalidNumber (c :: rest))

end AlbumBrowser.Json
