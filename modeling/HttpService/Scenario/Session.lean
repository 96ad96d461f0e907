import HttpService.Scenario.Script
import HttpService.Service

/-!
Contract: a service that is set up, used and looked at step by step.

Owns: the steps and what each of them leads to, and the records and journal entries
that a step leaves.

Does not own: the service.
-/

namespace HttpService.Scenario

inductive Registrand where
  | route (pattern : String) (endpoint : Endpoint Journal)
  | routesUnder (base : String) (routes : List (String × Endpoint Journal))
  | middleware (script : Script)
  | responder (status : Status) (script : Script)

inductive SessionStep where
  | register (registrand : Registrand)
  | request (raw : Bytes) (peer : Option Network.SocketAddress)
  | connection (arrivals : List Arrival) (sink : Sink) (peer : Option Network.SocketAddress)
  /-- Lets time pass. -/
  | advance (span : Nat)
  | start
  | showConfig

inductive SessionResult where
  | registered (error : Option RegistrationError)
  | answered (response : Except Panic Response)
  | closed (closing : Closing)
  | advanced
  | started (result : Except ServiceError Unit)
  | config (config : Config Journal)

/-- Ports below this one are reserved. -/
def firstFreePort : Nat := 1024

/-- What a service gets that asks for an address: its port may not be a reserved one, and the
machine has to have the address. -/
def bind (address : Network.SocketAddress) : Except TransferError Unit :=
  if 0 < address.port ∧ address.port < firstFreePort then
    .error ⟨.permissionDenied, "Permission denied (os error 13)"⟩
  else if address.ip.isLocal then .ok ()
  else .error ⟨.other, "Cannot assign requested address (os error 99)"⟩

/-- A service and the machine that it runs on. -/
structure Session where
  service : Service Journal
  engine : Engine Journal

namespace Session

/-- Sets up a service on a fresh machine. -/
def create (config : Config Journal) (files : Files) : Except ServiceError Session × List LogRecord :=
  let (result, reports) := Service.create config files
  (result.map fun service => ⟨service, .start .empty⟩, reports)

/-- Registers something, when nothing else uses the service. -/
def register (session : Session) (registrand : Registrand) :
    Option RegistrationError × Session :=
  let engine := session.engine.enter
  let (error, service, reports) := match registrand with
    | .route pattern endpoint => session.service.addRoute pattern endpoint
    | .routesUnder base routes => session.service.addRoutesUnder base routes
    | .middleware script => session.service.addMiddleware script.middleware
    | .responder status script => session.service.addResponder status script.responder
  (error, ⟨service, engine.reportAll reports⟩)

/-- How long a start is watched, in milliseconds. -/
def startWatch : Nat := 1

/-- Starts the service. A service that has started is watched for a moment. -/
def start (session : Session) : Except Panic (Except ServiceError Unit × Session) :=
  let (result, service, reports) :=
    session.service.start (bind session.service.pipeline.config.address)
  let entered := if session.service.started then session.engine else session.engine.enter
  let engine := entered.reportAll reports
  result.map fun result =>
    match result with
    | .error error => (.error error, ⟨service, engine⟩)
    | .ok () => (.ok (), ⟨service, engine.waitFor startWatch⟩)

/-- Takes a step. A panic that nothing contains ends the session. -/
def step (session : Session) : SessionStep → Except Panic (SessionResult × Session)
  | .register registrand =>
      let (error, session) := session.register registrand
      .ok (.registered error, session)
  | .request raw peer =>
      let (response, engine) := session.service.pipeline.handle raw peer session.engine.enter
      .ok (.answered response, { session with engine := engine })
  | .connection arrivals sink peer =>
      let (closing, engine) :=
        session.service.pipeline.serve arrivals sink peer session.engine.enter
      .ok (.closed closing, { session with engine := engine })
  | .advance span => .ok (.advanced, { session with engine := session.engine.waitFor span })
  | .start => session.start.map fun (result, session) => (.started result, session)
  | .showConfig => .ok (.config session.service.pipeline.config, session)

/-- What a step leaves: its result, journal entries and records. -/
structure Notes where
  result : SessionResult
  entries : List JournalEntry
  log : List LogRecord

/-- Takes the journal entries and the records since the last time. -/
def takeNotes (session : Session) : List JournalEntry × List LogRecord × Session :=
  let engine := session.engine
  (engine.world.entries, engine.log,
    { session with
      engine := { engine with world := { engine.world with entries := [] }, log := [] } })

def play (session : Session) : List SessionStep → Except Panic (List Notes)
  | [] => .ok []
  | step :: rest => do
      let (result, session) ← session.step step
      let (entries, log, session) := session.takeNotes
      return ⟨result, entries, log⟩ :: (← play session rest)

def registerAll (session : Session) :
    List Registrand → List (Option RegistrationError) × Session
  | [] => ([], session)
  | registrand :: rest =>
      let (error, session) := session.register registrand
      let (errors, session) := registerAll session rest
      (error :: errors, session)

end Session

end HttpService.Scenario
