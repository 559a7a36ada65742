import AlbumBrowser.Json.Reader

/-!
Passing over a JSON value that nobody asked for. Only its shape is looked at: any number of brackets may
be open, a number may be of any size, and the numbers of escaped characters are not put together.
-/

namespace AlbumBrowser.Json

open Text

/-- An exponent behind its letter. -/
def skipExponent (s : List Char) : Except Fault (List Char) :=
  let s := match s with
    | '+' :: rest => rest
    | '-' :: rest => rest
    | _ => s
  match s with
  | [] => .error (.before .invalidNumber [])
  | c :: rest =>
    if c.isDigit then .ok (rest.dropWhile Char.isDigit) else .error (.at .invalidNumber (c :: rest))

/-- The part of a number behind its whole digits. -/
def skipFraction (s : List Char) : Except Fault (List Char) :=
  let exponent (s : List Char) : Except Fault (List Char) :=
    match s with
    | 'e' :: rest => skipExponent rest
    | 'E' :: rest => skipExponent rest
    | _ => .ok s
  match s with
  | '.' :: rest =>
    match rest with
    | [] => .error (.before .invalidNumber [])
    | c :: after =>
      if c.isDigit then exponent (after.dropWhile Char.isDigit) else .error (.at .invalidNumber (c :: after))
  | _ => exponent s

/-- A number without its sign. -/
def skipNumber : List Char → Except Fault (List Char)
  | [] => .error (.before .invalidNumber [])
  | c :: rest =>
    if c = '0' then
      match rest with
      | d :: _ => if d.isDigit then .error (.at .invalidNumber rest) else skipFraction rest
      | [] => .ok []
    else if c.isDigit then skipFraction (rest.dropWhile Char.isDigit)
    else .error (.at .invalidNumber (c :: rest))

/-- One character of a string; true at the closing quotation mark. -/
def skipStringChar (s : List Char) : Except Fault (Bool × List Char) :=
  match s with
  | [] => .error (.before .endInString [])
  | c :: rest =>
    if c = '"' then .ok (true, rest)
    else if c = '\\' then
      match rest with
      | [] => .error (.before .endInString [])
      | d :: rest =>
        if d = 'u' then (hexQuad rest).map fun (_, rest) => (false, rest)
        else match escapeLetter? d with
          | some _ => .ok (false, rest)
          | none => .error (.at .invalidEscape (d :: rest))
    else if c < ' ' then .error (.before .controlCharacter (c :: rest))
    else .ok (false, rest)

/-- A string up to its closing mark. A text that is no shorter bounds the number of its characters. -/
def skipStringChars : (bound : List Char) → List Char → Except Fault (List Char)
  | bound, s => do
    let (closed, rest) ← skipStringChar s
    if closed then return rest
    match bound with
    | [] => throw (.before .endInString [])
    | _ :: bound => skipStringChars bound rest

def skipString (s : List Char) : Except Fault (List Char) := skipStringChars s s

/-- A bracket that is still open. -/
inductive Bracket where
  | list
  | object
  deriving DecidableEq, Repr

namespace Bracket

def close : Bracket → Char
  | list => ']'
  | object => '\x7d'

def endCause : Bracket → Cause
  | list => .endInList
  | object => .endInObject

def commaCause : Bracket → Cause
  | list => .expectedCommaOrBracket
  | object => .expectedCommaOrBrace

/-- What stands in front of a value in this bracket: in an object, a name and a colon. -/
def skipName (b : Bracket) (s : List Char) : Except Fault (List Char) :=
  match b with
  | list => .ok s
  | object =>
    match skipSpace s with
    | [] => .error (.before .endInObject [])
    | c :: rest =>
      if c = '"' then do colon (← skipString rest) else .error (.at .keyNotString (c :: rest))

end Bracket

/-- Closes brackets until the next value must begin. A comma is taken only behind a value. Gives the
brackets that stay open and the text from that value on; with no bracket left, the text behind. -/
def skipToValue : (opened : List Bracket) → (behindValue : Bool) → List Char →
    Except Fault (List Bracket × List Char)
  | [], _, s => .ok ([], s)
  | b :: outer, behindValue, s =>
    match skipSpace s with
    | [] => .error (.before b.endCause [])
    | c :: rest =>
      if behindValue && c = ',' then (b.skipName rest).map fun s => (b :: outer, s)
      else if c = b.close then skipToValue outer true rest
      else if behindValue then .error (.at b.commaCause (c :: rest))
      else (b.skipName (c :: rest)).map fun s => (b :: outer, s)

/-- The first mark of a value: the brackets that it opens, and the text behind; a simple value is passed
over as a whole. -/
def skipMark (s : List Char) : Except Fault (Option Bracket × List Char) :=
  match skipSpace s with
  | [] => .error (.before .endInValue [])
  | c :: rest =>
    let simple := Except.map fun s : List Char => ((none : Option Bracket), s)
    if c = 'n' then simple (word ['u', 'l', 'l'] rest)
    else if c = 't' then simple (word ['r', 'u', 'e'] rest)
    else if c = 'f' then simple (word ['a', 'l', 's', 'e'] rest)
    else if c = '-' then simple (skipNumber rest)
    else if c.isDigit then simple (skipNumber (c :: rest))
    else if c = '"' then simple (skipString rest)
    else if c = '[' then .ok (some .list, rest)
    else if c = '\x7b' then .ok (some .object, rest)
    else .error (.at .expectedValue (c :: rest))

/-- Passes over values until no bracket is open. Every value takes a character of the text, so a text
that is no shorter bounds their number. -/
def skipValues : (bound : List Char) → List Bracket → List Char → Except Fault (List Char)
  | bound, outer, s => do
    let (opened, s) ← skipMark s
    let (outer, s) ← match opened with
      | some b => skipToValue (b :: outer) false s
      | none => skipToValue outer true s
    if outer = [] then return s
    match bound with
    | [] => throw (.before .endInValue [])
    | _ :: bound => skipValues bound outer s

/-- Passes over one value. -/
def skipValue (s : List Char) : Except Fault (List Char) := skipValues s [] s

end AlbumBrowser.Json
