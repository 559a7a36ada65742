import AlbumBrowser.Json.Fault

/-!
JSON strings, written and read. Writing escapes quotation marks, backslashes and control characters
and nothing else; reading takes every escape of the standard and joins the two halves of a surrogate
pair.
-/

namespace AlbumBrowser.Json

open Text

/-- How a character is written inside a string. -/
def escapeChar (c : Char) : List Char :=
  if c = '"' then ['\\', '"']
  else if c = '\\' then ['\\', '\\']
  else if c = '\x08' then ['\\', 'b']
  else if c = '\x0c' then ['\\', 'f']
  else if c = '\n' then ['\\', 'n']
  else if c = '\r' then ['\\', 'r']
  else if c = '\t' then ['\\', 't']
  else if c < ' ' then '\\' :: 'u' :: (hexDigits c.toNat).leftpad 4 '0'
  else [c]

/-- A string in its quotation marks. -/
def quoted (s : List Char) : List Char := '"' :: (s.flatMap escapeChar ++ ['"'])

/-- Four hexadecimal digits. Four bytes are taken before they are looked at. -/
def hexQuad : Reader Nat := fun s =>
  if byteCount s < 4 then .error ⟨.endInString, 0⟩
  else match s with
    | a :: b :: c :: d :: rest =>
      match hexValue a, hexValue b, hexValue c, hexValue d with
      | some a, some b, some c, some d => .ok (4096 * a + 256 * b + 16 * c + d, rest)
      | _, _, _, _ => .error ⟨.invalidEscape, byteCount s - 4⟩
    | _ => .error ⟨.invalidEscape, byteCount s - 4⟩

/-- One given character of the second half of a surrogate pair. -/
def surrogateMark (mark : Char) : List Char → Except Fault (List Char)
  | [] => .error (.before .endInString [])
  | c :: rest => if c = mark then .ok rest else .error (.at .endInHexEscape (c :: rest))

/-- What follows `\u`: a character by its number, or by the two halves of a surrogate pair. -/
def unicodeEscape : Reader Char := fun s => do
  let (high, rest) ← hexQuad s
  if 0xDC00 ≤ high ∧ high ≤ 0xDFFF then throw (.before .loneSurrogate rest)
  if high < 0xD800 ∨ 0xDBFF < high then return (Char.ofNat high, rest)
  let rest ← surrogateMark '\\' rest
  let rest ← surrogateMark 'u' rest
  let (low, rest) ← hexQuad rest
  if low < 0xDC00 ∨ 0xDFFF < low then throw (.before .loneSurrogate rest)
  return (Char.ofNat (0x10000 + 0x400 * (high - 0xD800) + (low - 0xDC00)), rest)

/-- The character that a letter after a backslash stands for. -/
def escapeLetter? (c : Char) : Option Char :=
  if c = '"' ∨ c = '\\' ∨ c = '/' then some c
  else if c = 'b' then some '\x08'
  else if c = 'f' then some '\x0c'
  else if c = 'n' then some '\n'
  else if c = 'r' then some '\r'
  else if c = 't' then some '\t'
  else none

/-- What follows a backslash. -/
def escapeSequence : Reader Char
  | [] => .error (.before .endInString [])
  | c :: rest =>
    if c = 'u' then unicodeEscape rest
    else match escapeLetter? c with
      | some x => .ok (x, rest)
      | none => .error (.at .invalidEscape (c :: rest))

/-- The next character of a string, or nothing at the closing quotation mark. -/
def stringChar : Reader (Option Char)
  | [] => .error (.before .endInString [])
  | c :: rest =>
    if c = '"' then .ok (none, rest)
    else if c = '\\' then do
      let (x, rest) ← escapeSequence rest
      return (some x, rest)
    else if c < ' ' then .error (.at .controlCharacter (c :: rest))
    else .ok (some c, rest)

/-- The characters of a string up to its closing mark. Every one takes a character of the text, so a
text that is no shorter, such as the text itself, bounds their number. -/
def stringChars : (bound : List Char) → Reader (List Char)
  | bound, s => do
    match ← stringChar s with
    | (none, rest) => return ([], rest)
    | (some c, rest) =>
      match bound with
      | [] => throw (.before .endInString [])
      | _ :: bound =>
        let (cs, rest) ← stringChars bound rest
        return (c :: cs, rest)

/-- The rest of a string whose opening mark has been read. -/
def stringRest : Reader String := fun s => do
  let (cs, rest) ← stringChars s s
  return (String.ofList cs, rest)

end AlbumBrowser.Json
