import AlbumBrowser.CommandLine.Program
import AlbumBrowser.Web.Message
import AlbumBrowser.Web.Service
import Std.Async.DNS
import Std.Async.Signal
import Std.Async.TCP
import Std.Time.Zoned.Database

/-!
The program: it reads its command line, fetches feeds from files and over connections, serves the page,
and writes what the library gives it.
-/

namespace AlbumBrowser.Main

open Std Std.Async Std.Net
open CommandLine Terminal

/-- The content of a file. -/
def readFile (path : String) : IO (Except FileFault ByteArray) := do
  try
    return .ok (← IO.FS.readBinFile path)
  catch
    | .noFileOrDirectory .. => return .error .missing
    | .inappropriateType .. => return .error .isDirectory
    | e => return .error (.other (toString e))

/-- Everything that comes over a connection until `complete` holds of it or the other side is done. -/
partial def receive (client : TCP.Socket.Client) (complete : List UInt8 → Bool) (sofar : ByteArray) :
    Async ByteArray := do
  if complete sofar.data.toList then return sofar
  match ← client.recv? 65536 with
  | some bytes => receive client complete (sofar ++ bytes)
  | none => return sofar

/-- The answer to a request for an address. -/
def request (u : Web.Url) : Async (Option (Nat × List UInt8)) := do
  let (host, port) := u.host
  let addresses ← DNS.getAddrInfo host (toString port) (some .ipv4)
  match (addresses[0]? : Option IPAddr) with
  | some (.v4 address) =>
    let client ← TCP.Socket.Client.mk
    client.connect (.v4 ⟨address, port.toUInt16⟩)
    client.send (Web.Message.ofUrl u)
    let bytes ← receive client (fun _ => false) .empty
    return Web.Message.answer? bytes.data.toList
  | _ => return none

/-- Fetches a feed over a connection. A connection that would have to be encrypted is not made. -/
def fetchWeb (url : String) : IO Fetched := do
  match Web.Url.parse? url with
  | none => return .error (.network url "builder error")
  | some u =>
    let failed : LoadError := .network url ("error sending request for url (" ++ u.text ++ ")")
    if u.secure then return .error failed
    try
      match ← (request u).block with
      | some (status, body) => return Feed.ofResponse url status body
      | none => return .error failed
    catch _ => return .error failed

/-- Fetches a feed; over a connection it may take no more than a number of seconds, if one is given. -/
def fetch (timeout : Option Nat) (location : String) : IO Fetched := do
  match Source.ofLocation location with
  | .file path => return Feed.ofFile path (← readFile path)
  | .web url =>
    match timeout with
    | none => fetchWeb url
    | some seconds =>
      let answer ← IO.asTask (fetchWeb url) Task.Priority.dedicated
      let limit ← IO.asTask (do
        IO.sleep (1000 * seconds).toUInt32
        return .error (.network url ("error sending request for url (" ++ url ++ ")"))) Task.Priority.dedicated
      match ← IO.waitAny [answer, limit] with
      | .ok fetched => return fetched
      | .error e => throw e

def write (colours : Bool) (lines : List Line) : IO Unit := do
  let out ← IO.getStdout
  out.putStr (Terminal.render colours lines)
  out.flush

/-- Makes an event happen, unless a time cannot be shown: then nothing happens. -/
def happen (service : IO.Ref Web.Service) (event : Web.Service.Event) : IO (Option Web.Response × Web.Service) :=
  service.modifyGet fun s =>
    let (answer, s) := (s.step event).getD (none, s)
    ((answer, s), s)

/-- The answer to a request. A reload waits for its feed while others are answered. -/
def answer (location : String) (timeout : Option Nat) (service : IO.Ref Web.Service) (r : Web.Request) :
    IO (Option Web.Response) := do
  let (answer, s) ← happen service (.request r)
  if r.route ≠ .reload then return answer
  let ticket := s.server.viewer.issued
  let fetched ← fetch timeout location
  let _ ← happen service (.fetched ticket fetched)
  return (← happen service (.answered ticket)).1

/-- Answers the request of one connection. -/
def serveOne (location : String) (timeout : Option Nat) (service : IO.Ref Web.Service)
    (client : TCP.Socket.Client) : Async Unit := do
  let bytes ← receive client (fun bytes => (Web.Message.request? bytes).isSome) .empty
  match Web.Message.request? bytes.data.toList with
  | none => return ()
  | some r =>
    match ← answer location timeout service r with
    | none => return ()
    | some response =>
      client.send (Web.Message.ofResponse response)
      client.shutdown

/-- Answers requests, each on a thread of its own, until the program is interrupted. -/
partial def serveAll (location : String) (timeout : Option Nat) (listener : TCP.Socket.Server)
    (interrupt : Signal.Waiter) (service : IO.Ref Web.Service) : Async Unit := do
  let next ← Selectable.one #[
    .case listener.acceptSelector fun client => pure (some client),
    .case interrupt.selector fun _ => pure none]
  match next with
  | none => return ()
  | some client =>
    let _ ← IO.asTask (serveOne location timeout service client).block Task.Priority.dedicated
    serveAll location timeout listener interrupt service

/-- The machine's zone; the zero meridian where the machine does not tell. -/
def machineZone : IO ViewerZone := do
  try
    let rules ← Time.Database.defaultGetLocalZoneRules
    return .machine fun m =>
      let time := Time.Timestamp.ofSecondsSinceUnixEpoch (.ofInt m.second)
      (Zone.ofSeconds? (rules.timezoneAt time).offset.second.val).getD Zone.utc
  catch _ => return Zone.utc

/-- Serves the viewer on a port. -/
def serve (colours : Bool) (location : String) (timeout : Option Nat) (zone : ViewerZone) (port : Nat) : IO Unit := do
  let (outcome, server) := (Web.Server.new { source := location, zone := zone }).reload (← fetch timeout location)
  write colours (firstLoadLines location outcome)
  let listener ← TCP.Socket.Server.mk
  listener.bind (.v4 ⟨.ofParts 0 0 0 0, port.toUInt16⟩)
  listener.listen 128
  let interrupt ← Signal.Waiter.mk .sigint false
  write colours (readyLines port)
  (serveAll location timeout listener interrupt (← IO.mkRef { server := server })).block
  write colours stoppedLines

/-- Writes a screen or reports the failure to make one. -/
def finish (colours : Bool) : Option (Except Failure (List Line)) → IO UInt32
  | none => do
    (← IO.getStderr).putStrLn "date hors du calendrier"
    return 101
  | some screen => do
    let t := Transcript.ofScreen colours screen
    (← IO.getStdout).putStr t.output
    (← IO.getStderr).putStr t.errors
    return t.exitCode.toUInt32

def run (arguments : List String) : IO UInt32 := do
  match Invocation.parse (← IO.getEnv "ALBUM_SOURCE") arguments with
  | .error .refused =>
    (← IO.getStderr).putStrLn "Usage: album-viewer [--timeout S] [--utc-offset +HH:MM] <list|show|serve> ..."
    return 2
  | .error .overflow =>
    (← IO.getStderr).putStrLn "décalage hors des mots de 32 bits"
    return 101
  | .ok i =>
    let colours ← (← IO.getStdout).isTty
    let zone := i.zoneOr (← machineZone)
    match i.command with
    | .list source criteria =>
      finish colours (listScreen source zone criteria (← fetch i.timeout source))
    | .album source id folder steps =>
      finish colours (albumScreen source zone id folder steps (← fetch i.timeout source))
    | .serve source port =>
      serve colours source i.timeout zone port
      return 0

end AlbumBrowser.Main

def main (arguments : List String) : IO UInt32 := AlbumBrowser.Main.run arguments
