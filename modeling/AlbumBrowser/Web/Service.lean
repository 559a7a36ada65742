import AlbumBrowser.Web.Server

/-!
A server at work on several requests at once. Every request is answered in a single step but for a reload, which
holds the server only while it takes its ticket, while it installs the list that its feed has come to, and
while its answer is made. Anything may happen in between, also other reloads.
-/

namespace AlbumBrowser.Web

/-- A server and the reloads that are under way. -/
structure Service where
  server : Server
  /-- The tickets of those that wait for their feeds. -/
  fetching : List Nat := []
  /-- Those that have ended and are to be answered, by their tickets. -/
  ended : List (Nat × Except LoadError LoadOutcome) := []

namespace Service

/-- What happens next. -/
inductive Event where
  | request (r : Request)
  /-- The fetch of the reload with a ticket is done. -/
  | fetched (ticket : Nat) (fetched : Fetched)
  /-- The reload with a ticket is answered. -/
  | answered (ticket : Nat)

/-- A reload begins. -/
def begin (s : Service) : Service :=
  let (ticket, server) := s.server.beginReload
  { s with server := server, fetching := ticket :: s.fetching }

/-- A reload ends with what its fetch has come to. -/
def finish (s : Service) (ticket : Nat) (fetched : Fetched) : Service :=
  let (outcome, server) := s.server.finishReload ticket fetched
  { server := server, fetching := s.fetching.erase ticket, ended := (ticket, outcome) :: s.ended }

/-- One event: the answer that it gives, if any, and the service afterwards. Nothing happens to a reload that is not
under way. -/
def step (s : Service) : Event → Option (Option Response × Service)
  | .request r =>
    if r.route = .reload then some (none, s.begin)
    else (s.server.handle (.error .notAList) r).map fun (response, server) => (some response, { s with server := server })
  | .fetched ticket fetched => some (none, if ticket ∈ s.fetching then s.finish ticket fetched else s)
  | .answered ticket =>
    match s.ended.lookup ticket with
    | none => some (none, s)
    | some outcome => (s.server.reloadAnswer outcome).map fun response =>
      (some response, { s with ended := s.ended.filter (·.1 ≠ ticket) })

/-- The answers to the events of a list, one after the other, and the service at the end. -/
def run (s : Service) : List Event → Option (List Response × Service)
  | [] => some ([], s)
  | event :: events => do
    let (answer, s) ← s.step event
    let (answers, s) ← run s events
    return (answer.toList ++ answers, s)

end Service

end AlbumBrowser.Web
