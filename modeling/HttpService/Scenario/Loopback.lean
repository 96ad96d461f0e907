import HttpService.Listener
import HttpService.Scenario.Session

/-!
Contract: a started service with clients on the same machine, one after another.

Owns: what clients do, and what they get.

Does not own: permits and visits.
-/

namespace HttpService.Scenario

inductive Client where
  /-- Sends octets, closes its sending side and reads. -/
  | send (bytes : Bytes)
  /-- Sends nothing, and reads. -/
  | listen
  /-- Stays connected and silent while the other clients are served. -/
  | hold
deriving DecidableEq, Repr

inductive Gain where
  | received (bytes : Bytes)
  | held
deriving DecidableEq, Repr

structure Loopback where
  session : Session
  listener : Listener
  /-- Silent connections, and the moments at which they are given up. -/
  silent : List (Visit × Nat)

namespace Loopback

def peer : Network.SocketAddress := ⟨.v4 [127, 0, 0, 1], 0, 0⟩

def ofSession (session : Session) : Loopback :=
  ⟨session, .ofLimit session.service.pipeline.config.maxConnections, []⟩

def reportAll (loopback : Loopback) (records : List LogRecord) : Loopback :=
  let session := loopback.session
  { loopback with session := { session with engine := session.engine.reportAll records } }

/-- Ends a visit. -/
def complete (loopback : Loopback) (visit : Visit) (ending : Visit.Ending) : Loopback :=
  let (listener, records) := loopback.listener.complete visit ending
  { loopback with listener := listener }.reportAll records

/-- Whether a silent connection has been given up. -/
def isOver (loopback : Loopback) (visit : Visit × Nat) : Bool :=
  decide (visit.2 ≤ loopback.session.engine.clock)

/-- Ends the visits of silent connections that have been given up: they have been answered. -/
def reap (loopback : Loopback) : Loopback :=
  (loopback.silent.filter loopback.isOver).foldl
    (fun loopback visit => loopback.complete visit.1 (.ok (.ok ())))
    { loopback with silent := loopback.silent.filter (!loopback.isOver ·) }

/-- Serves a visit to its end. -/
def serveVisit (loopback : Loopback) (visit : Visit) (arrivals : List Arrival) : Gain × Loopback :=
  let session := loopback.session
  let served :=
    session.service.pipeline.serve arrivals .accepts (some visit.peer) session.engine
  (.received served.1.written,
    { loopback with session := { session with engine := served.2 } }.complete visit
      served.1.result)

/-- Lets a visit stay silent until it is given up. -/
def holdVisit (loopback : Loopback) (visit : Visit) : Loopback :=
  let session := loopback.session
  let moment := session.engine.clock + session.service.pipeline.config.readTimeout
  { loopback with silent := loopback.silent ++ [(visit, moment)] }

def receive (loopback : Loopback) (client : Client) : Reception → Gain × Loopback
  | .turnedAway response =>
      (if client = .hold then .held else .received response.toBytes, loopback)
  | .admitted visit =>
      match client with
      | .send bytes => loopback.serveVisit visit (Arrival.ofBytes bytes)
      | .listen => loopback.serveVisit visit [.stall]
      | .hold => (.held, loopback.holdVisit visit)

def accept (loopback : Loopback) (client : Client) : Gain × Loopback :=
  let loopback := loopback.reap
  let (reception, listener, records) := loopback.listener.accept peer
  ({ loopback with listener := listener }.reportAll records).receive client reception

def acceptAll (loopback : Loopback) : List Client → List Gain × Loopback
  | [] => ([], loopback)
  | client :: rest =>
      let (gain, loopback) := loopback.accept client
      let (gains, loopback) := acceptAll loopback rest
      (gain :: gains, loopback)

end Loopback

end HttpService.Scenario
