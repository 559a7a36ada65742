import AlbumBrowser.Web.Server
import AlbumBrowser.Web.Url

/-!
Requests and answers as they go over a connection: a head of lines, an empty line, and a body. Every
connection carries one of each.
-/

namespace AlbumBrowser.Web.Message

open Text

/-- The parts of a message before and after its first empty line, if it has come that far. -/
def split? : List UInt8 → Option (List UInt8 × List UInt8)
  | [] => none
  | b :: rest =>
    if [13, 10, 13, 10] <+: b :: rest then some ([], (b :: rest).drop 4)
    else (split? rest).map fun (head, body) => (b :: head, body)

/-- The lines of a head. -/
def lines (head : List UInt8) : List (List Char) :=
  ((decodeLossy head).filter (· ≠ '\r')).splitOn '\n'

/-- The value of a header, by its name in lower case. -/
def header? (name : String) (head : List (List Char)) : Option (List Char) :=
  head.findSome? fun line => do
    let (found, value) ← cut? ':' line
    if found.map Char.toLower = name.toList then some (trim value) else none

/-- The length that a head announces for its body. -/
def bodyLength (head : List (List Char)) : Nat := ((header? "content-length" head).bind number?).getD 0

/-- The request in the bytes that have come so far, once it is complete. -/
def request? (bytes : List UInt8) : Option Request := do
  let (head, body) ← split? bytes
  let head := lines head
  if body.length < bodyLength head then none
  let body : ByteArray := ⟨(body.take (bodyLength head)).toArray⟩
  match (head.headD []).splitOn ' ' with
  | method :: target :: _ => return ⟨String.ofList method, String.ofList target, body⟩
  | _ => return ⟨"", "", body⟩

/-- What a status is called. -/
def reason (status : Nat) : String :=
  match status with
  | 200 => "OK"
  | 400 => "Bad Request"
  | 404 => "Not Found"
  | 405 => "Method Not Allowed"
  | 409 => "Conflict"
  | 502 => "Bad Gateway"
  | _ => "Internal Server Error"

/-- A head from its lines. -/
def headText (lines : List String) : String := String.join (lines.map (· ++ "\r\n")) ++ "\r\n"

/-- An answer as it is sent. -/
def ofResponse (r : Response) : ByteArray :=
  let head := headText [
    "HTTP/1.1 " ++ String.ofList (digits r.status) ++ " " ++ reason r.status,
    "Content-Type: " ++ r.contentType,
    "Content-Length: " ++ String.ofList (digits r.body.utf8ByteSize),
    "Connection: close"]
  (head ++ r.body).toUTF8

/-- The request for an address. -/
def ofUrl (u : Url) : ByteArray :=
  (headText ["GET " ++ u.target ++ " HTTP/1.0", "Host: " ++ u.authority, "Accept: */*",
    "Connection: close"]).toUTF8

/-- The status and the body of an answer. -/
def answer? (bytes : List UInt8) : Option (Nat × List UInt8) := do
  let (head, body) ← split? bytes
  match (((lines head).headD []).splitOn ' ') with
  | _ :: status :: _ => return (← number? status, body)
  | _ => none

end AlbumBrowser.Web.Message
