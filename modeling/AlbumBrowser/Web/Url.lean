import AlbumBrowser.Text.Segment
import AlbumBrowser.Text.Utf8
import AlbumBrowser.Web.Query

/-!
Web addresses as they are requested: dot segments resolved, what may not stand in a path or a query
percent-encoded, an empty path written as a slash, and the fragment left out.
-/

namespace AlbumBrowser.Web

open Text

structure Url where
  secure : Bool
  /-- The host in lower case and the port, if one is given. -/
  authority : String
  /-- The path and the query. -/
  target : String
  deriving DecidableEq, Repr

namespace Url

/-- A byte that may stand in an address, or its escape. -/
def encodeUnless (allowed : UInt8 → Bool) (b : UInt8) : List Char :=
  if allowed b then [Char.ofNat b.toNat]
  else ['%', hexDigit (b.toNat / 16), hexDigit (b.toNat % 16)]

/-- Bytes that stand for themselves in a path: the printable ones of ASCII with some exceptions. -/
def inPath (b : UInt8) : Bool :=
  0x20 < b && b < 0x7F && Char.ofNat b.toNat ∉ ['"', '#', '<', '>', '?', '\x60', '\x7b', '\x7d']

/-- Bytes that stand for themselves in a query. -/
def inQuery (b : UInt8) : Bool :=
  0x20 < b && b < 0x7F && Char.ofNat b.toNat ∉ ['"', '#', '<', '>', '\x27']

def encodeWith (allowed : UInt8 → Bool) (s : List Char) : List Char :=
  (encode s).flatMap (encodeUnless allowed)

/-- A dot, plain or escaped, at the start of a text. -/
def takeDot : List Char → Option (List Char)
  | '.' :: rest => some rest
  | '%' :: '2' :: 'e' :: rest => some rest
  | '%' :: '2' :: 'E' :: rest => some rest
  | _ => none

def isDot (s : List Char) : Bool := takeDot s = some []

def isDoubleDot (s : List Char) : Bool := (takeDot s).bind takeDot = some []

/-- Resolves the dot segments of a path; `kept` are the segments so far, backwards. A dot segment at the
end leaves an empty segment. -/
def resolve (kept : List (List Char)) : List (List Char) → List (List Char)
  | [] => kept.reverse
  | s :: rest =>
    if isDoubleDot s then
      let kept := kept.drop 1
      resolve (if rest = [] then [] :: kept else kept) rest
    else if isDot s then resolve (if rest = [] then [] :: kept else kept) rest
    else resolve (encodeWith inPath s :: kept) rest

/-- The path of an address, written after its host. -/
def normalPath (s : List Char) : List Char :=
  let segments := (s.map fun c => if c = '\\' then '/' else c).splitOn '/'
  (resolve [] (segments.drop 1)).flatMap ('/' :: ·)

/-- A path as it is requested; an empty one is the root. -/
def pathOrRoot (path : List Char) : List Char := if path = [] then ['/'] else normalPath path

/-- The target of a request for what stands behind the host of an address. -/
def targetOf (s : List Char) : List Char :=
  let s := s.takeWhile (· ≠ '#')
  match cut? '?' s with
  | some (path, query) => pathOrRoot path ++ '?' :: encodeWith inQuery query
  | none => pathOrRoot s

/-- Whether a character may stand in the name of a host. -/
def inHost (c : Char) : Bool := c.isAlphanum || c ∈ ['.', '-', '_', '[', ']', ':']

/-- The address that a text writes. White space around it and line ends and tabs in it do not count. -/
def parse? (text : String) : Option Url := do
  let blank (c : Char) : Bool := c ≤ ' '
  let s := ((text.toList.dropWhile blank).reverse.dropWhile blank).reverse
  let s := s.filter fun c => c ≠ '\t' ∧ c ≠ '\n' ∧ c ≠ '\r'
  let (secure, s) ← match behind? "http://".toList s, behind? "https://".toList s with
    | some rest, _ => some (false, rest)
    | none, some rest => some (true, rest)
    | none, none => none
  let inAuthority (c : Char) : Bool := c ∉ ['/', '\\', '?', '#']
  let authority := s.takeWhile inAuthority
  if authority ≠ [] ∧ authority.all inHost then
    some {
      secure := secure
      authority := String.ofList (authority.map Char.toLower)
      target := String.ofList (targetOf (s.dropWhile inAuthority)) }
  else none

/-- The name of the host and the port, which depends on the scheme if none is given. -/
def host (u : Url) : String × Nat :=
  match cut? ':' u.authority.toList with
  | some (name, port) => (String.ofList name, (number? port).getD 0)
  | none => (u.authority, if u.secure then 443 else 80)

/-- The text of an address. -/
def text (u : Url) : String := (if u.secure then "https://" else "http://") ++ u.authority ++ u.target

end Url

end AlbumBrowser.Web
