import HttpService.Service

/-!
Contract: how many connections are served at a time.

Owns:
- the permits for connections, and the visits that hold them;
- the answer to a connection that gets no permit;
- what is reported on visits that end with an error.

Does not own: what connections bring, how they are served, and what is reported on panics.
-/

namespace HttpService

/-- A connection that has been let in. It holds a permit for as long as its task runs. -/
structure Visit where
  id : Nat
  peer : Network.SocketAddress
deriving DecidableEq, Repr

/-- How the task of a visit ends: it returns, or it panics. -/
abbrev Visit.Ending := Except Panic (Except ServiceError Unit)

/-- What the task of a visit reports when it ends. -/
def Visit.reports (visit : Visit) : Ending → List LogRecord
  | .ok (.ok ()) => []
  | .ok (.error error) =>
      [⟨.warn, "Error handling connection from " ++ visit.peer.render ++ ": " ++ error.message⟩]
  | .error _ => []

/-- What a new connection meets. -/
inductive Reception where
  | admitted (visit : Visit)
  /-- The response is all that is sent, and no task is started. -/
  | turnedAway (response : Response)

/-- The response to a connection that is turned away. -/
def atCapacity : Response :=
  Pipeline.rejection ((HttpError.ofStatus .serviceUnavailable).withMessage
    "Server is at capacity, please try again later")

/-- The report on a connection that is turned away. -/
def turnedAwayText (peer : Network.SocketAddress) : String :=
  "Connection limit reached, rejecting connection from " ++ peer.render

/-- A service that accepts connections: the permits that are free, and the visits whose tasks run,
the oldest first. -/
structure Listener where
  free : Nat
  visits : List Visit
  nextId : Nat
deriving DecidableEq, Repr

namespace Listener

/-- All permits of a limit. -/
def ofLimit (limit : Nat) : Listener := ⟨limit, [], 0⟩

/-- Takes a permit for a new connection and starts its task, or turns the connection away. -/
def accept (listener : Listener) (peer : Network.SocketAddress) :
    Reception × Listener × List LogRecord :=
  match listener.free with
  | 0 => (.turnedAway atCapacity, listener, [⟨.warn, turnedAwayText peer⟩])
  | free + 1 =>
      let visit := ⟨listener.nextId, peer⟩
      (.admitted visit, ⟨free, listener.visits ++ [visit], listener.nextId + 1⟩, [])

/-- Ends the task of a visit. The task owns the permit of the visit, and drops it on every way
out. -/
def complete (listener : Listener) (visit : Visit) (ending : Visit.Ending) :
    Listener × List LogRecord :=
  ({ listener with
      free := listener.free + 1
      visits := listener.visits.erase visit },
    visit.reports ending)

/-- What happens to a listener. -/
inductive Occurrence where
  | arrival (peer : Network.SocketAddress) (reception : Reception)
  | departure (visit : Visit) (ending : Visit.Ending)

/-- The listeners that connections bring one with a limit to, with all that has happened on the way:
connections arrive and tasks end in whatever order. A limit is one that a semaphore can have. -/
inductive Ran (limit : Nat) : List Occurrence → Listener → Prop where
  | opened (countable : limit ≤ Service.maxPermits) : Ran limit [] (.ofLimit limit)
  | accept {history : List Occurrence} {listener : Listener} (ran : Ran limit history listener)
      (peer : Network.SocketAddress) :
      Ran limit (history ++ [.arrival peer (listener.accept peer).1]) (listener.accept peer).2.1
  | complete {history : List Occurrence} {listener : Listener} {visit : Visit}
      (ran : Ran limit history listener) (runs : visit ∈ listener.visits) (ending : Visit.Ending) :
      Ran limit (history ++ [.departure visit ending]) (listener.complete visit ending).1

end Listener

end HttpService
