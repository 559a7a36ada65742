import AlbumBrowser.Text.Numeral
import AlbumBrowser.Text.Segment
import AlbumBrowser.Text.Utf8

/-!
Query strings: the part of a request's target between its first question mark and the second one, if
there are two. Pairs are set apart by ampersands and hold a name and a value around an equals sign, both
percent-encoded.
-/

namespace AlbumBrowser.Web

open Text

/-- The value of two digits behind a percent sign. A plus sign may stand for a leading zero. -/
def percentByte? (high low : UInt8) : Option UInt8 := do
  let low ← hexValue (Char.ofNat low.toNat)
  if high = 0x2B then return low.toUInt8
  let high ← hexValue (Char.ofNat high.toNat)
  return (16 * high + low).toUInt8

/-- What a byte outside an escape stands for: a plus sign for a space. -/
def plainByte (b : UInt8) : UInt8 := if b = 0x2B then 0x20 else b

/-- Decodes percent signs that have two digits behind them, and plus signs. -/
def percentDecode : List UInt8 → List UInt8
  | b :: high :: low :: rest =>
    match if b = 0x25 then percentByte? high low else none with
    | some x => x :: percentDecode rest
    | none => plainByte b :: percentDecode (high :: low :: rest)
  | b :: rest => plainByte b :: percentDecode rest
  | [] => []

/-- The text that a percent-encoded text stands for. -/
def decodeComponent (s : List Char) : List Char := decodeLossy (percentDecode (encode s))

/-- Whether a byte stands for itself in a component of a query. -/
def isUnreserved (b : UInt8) : Bool :=
  let c := Char.ofNat b.toNat
  c.isAlphanum || c ∈ ['-', '_', '.', '!', '~', '*', '\x27', '(', ')']

/-- An upper-case hexadecimal digit. -/
def hexDigit (n : Nat) : Char := (Nat.digitChar n).toUpper

/-- A byte of a component: itself, or a percent sign and two digits. -/
def encodeByte (b : UInt8) : List Char :=
  if isUnreserved b then [Char.ofNat b.toNat]
  else ['%', hexDigit (b.toNat / 16), hexDigit (b.toNat % 16)]

/-- A text as a component of a query. -/
def encodeComponent (s : List Char) : List Char := (encode s).flatMap encodeByte

/-- Names and values in the order of the query. -/
abbrev Query := List (String × String)

namespace Query

/-- The value of a name; of several, the last. -/
def get? (q : Query) (name : String) : Option String := (q.reverse.find? (·.1 = name)).map (·.2)

/-- The pair that a piece between two ampersands holds; none without an equals sign. -/
def pair? (piece : List Char) : Option (String × String) :=
  (cut? '=' piece).map fun (name, value) =>
    (String.ofList (decodeComponent name), String.ofList (decodeComponent value))

/-- The pairs of a query string. -/
def ofChars (s : List Char) : Query := (s.splitOn '&').filterMap pair?

/-- The query string of a request's target. -/
def part? (target : String) : Option (List Char) := (target.toList.splitOn '?')[1]?

/-- The pairs in a request's target. -/
def ofTarget (target : String) : Query := ((part? target).map ofChars).getD []

/-- The query string that a list of pairs is sent as. -/
def toChars (q : Query) : List Char :=
  ['&'].intercalate (q.map fun (name, value) =>
    encodeComponent name.toList ++ '=' :: encodeComponent value.toList)

end Query

end AlbumBrowser.Web
