import HttpService.Service

/-!
Contract: a service that many callers set up and start at the same time.

Owns:
- what can be registered, and how far a registration and a start have come;
- the steps that nobody interrupts, and the lock that lets in one registration at a time;
- the states that such steps lead to, in whatever order they are taken.

Does not own: what a registration changes, and what a service does once it serves.
-/

namespace HttpService

/-- What can be registered. -/
inductive Registrant (World : Type) where
  | route (pattern : String) (endpoint : Endpoint World)
  | routesUnder (base : String) (routes : List (String × Endpoint World))
  | middleware (middleware : Middleware World)
  | responder (status : Status) (responder : Responder World)

namespace Registrant

variable {World : Type}

/-- How it is called when it comes too late. -/
def what : Registrant World → String
  | .route .. => "routes"
  | .routesUnder .. => "routes"
  | .middleware _ => "middleware"
  | .responder .. => "error responders"

/-- Registers it with a service that nobody else uses. -/
def register (registrant : Registrant World) (service : Service World) :
    Service.Registration World :=
  match registrant with
  | .route pattern endpoint => service.addRoute pattern endpoint
  | .routesUnder base routes => service.addRoutesUnder base routes
  | .middleware next => service.addMiddleware next
  | .responder status respond => service.addResponder status respond

/-- What it makes of the pipeline of a service that has not started. -/
def apply (registrant : Registrant World) (pipeline : Pipeline World) :
    Option RegistrationError × Pipeline World :=
  let (error, service, _) := registrant.register ⟨pipeline, false⟩
  (error, service.pipeline)

end Registrant

/-- How far a registration has come. -/
inductive Registering where
  | waiting
  /-- It holds the lock, and has seen that the service has not started. -/
  | admitted
  | returned
  /-- A panic instead of a change. -/
  | refused (error : RegistrationError)
  /-- A panic that ends the change. -/
  | failed (error : RegistrationError)
deriving DecidableEq, Repr

/-- What a change comes to. -/
def Registering.ofChange : Option RegistrationError → Registering
  | none => returned
  | some error => failed error

/-- How far a start has come. -/
inductive Starting (World : Type) where
  | waiting
  /-- It has marked the service as started. -/
  | claimed
  /-- It knows what to serve. -/
  | prepared (snapshot : Pipeline World)
  | serving (snapshot : Pipeline World)
  /-- The service had started before. -/
  | refused
  /-- It has not got its address. -/
  | failed (error : TransferError)
  | ended (result : Except Panic Unit)

/-- What becomes of a start that has got its address. -/
def Starting.bound {World : Type} (snapshot : Pipeline World) : Starting World :=
  if Service.maxPermits < snapshot.config.maxConnections then
    ended (.error Service.tooManyPermits)
  else serving snapshot

/-- A service, the registration that holds its lock, and its callers, by number. Callers that never
come keep waiting. -/
structure Startup (World : Type) where
  service : Service World
  lock : Option Nat
  registrations : Nat → Registering
  starts : Nat → Starting World

namespace Startup

variable {World : Type}

/-- A service that nobody has called yet. -/
def opened (pipeline : Pipeline World) : Startup World :=
  ⟨⟨pipeline, false⟩, none, fun _ => .waiting, fun _ => .waiting⟩

def setRegistration (state : Startup World) (index : Nat) (stage : Registering) : Startup World :=
  { state with
    registrations := fun other => if other = index then stage else state.registrations other }

@[simp]
theorem setRegistration_self (state : Startup World) (index : Nat) (stage : Registering) :
    (state.setRegistration index stage).registrations index = stage :=
  if_pos rfl

@[simp]
theorem setRegistration_of_ne (state : Startup World) {index other : Nat} (stage : Registering)
    (different : other ≠ index) :
    (state.setRegistration index stage).registrations other = state.registrations other :=
  if_neg different

def setStart (state : Startup World) (index : Nat) (stage : Starting World) : Startup World :=
  { state with starts := fun other => if other = index then stage else state.starts other }

@[simp]
theorem setStart_self (state : Startup World) (index : Nat) (stage : Starting World) :
    (state.setStart index stage).starts index = stage :=
  if_pos rfl

@[simp]
theorem setStart_of_ne (state : Startup World) {index other : Nat} (stage : Starting World)
    (different : other ≠ index) :
    (state.setStart index stage).starts other = state.starts other :=
  if_neg different

/-- Whether the service counts as started. -/
def mark (state : Startup World) (started : Bool) : Startup World :=
  { state with service := { state.service with started := started } }

inductive Turn where
  /-- A registration takes the lock, and looks whether the service has started. -/
  | enter (index : Nat)
  /-- A registration makes its change and gives the lock back. -/
  | commit (index : Nat)
  /-- A start marks the service as started, and learns whether it was before. -/
  | claim (index : Nat)
  /-- A start takes a snapshot of the pipeline while no registration holds it. -/
  | snapshot (index : Nat)
  /-- A start takes its address, or does not get it. -/
  | bind (index : Nat) (result : Except TransferError Unit)
  /-- A service that serves is stopped. -/
  | stop (index : Nat)
deriving Repr

/-- Takes a turn, if it is one that can be taken. -/
def step? (registrants : Nat → Registrant World) (state : Startup World) :
    Turn → Option (Startup World)
  | .enter index =>
      match state.lock, state.registrations index with
      | none, .waiting =>
          if state.service.started then
            some (state.setRegistration index (.refused (.afterStart (registrants index).what)))
          else some { state.setRegistration index .admitted with lock := some index }
      | _, _ => none
  | .commit index =>
      match state.registrations index with
      | .admitted =>
          let (error, pipeline) := (registrants index).apply state.service.pipeline
          some
            { state.setRegistration index (.ofChange error) with
              service := { state.service with pipeline := pipeline }
              lock := none }
      | _ => none
  | .claim index =>
      match state.starts index with
      | .waiting =>
          if state.service.started then some (state.setStart index .refused)
          else some ((state.setStart index .claimed).mark true)
      | _ => none
  | .snapshot index =>
      match state.lock, state.starts index with
      | none, .claimed => some (state.setStart index (.prepared state.service.pipeline))
      | _, _ => none
  | .bind index result =>
      match state.starts index, result with
      | .prepared snapshot, .ok () => some (state.setStart index (.bound snapshot))
      | .prepared _, .error error => some ((state.setStart index (.failed error)).mark false)
      | _, _ => none
  | .stop index =>
      match state.starts index with
      | .serving _ => some (state.setStart index (.ended (.ok ())))
      | _ => none

/-- The states that callers bring a service to, in whatever order they take their turns. -/
inductive Reachable (registrants : Nat → Registrant World) (pipeline : Pipeline World) :
    Startup World → Prop where
  | opened : Reachable registrants pipeline (.opened pipeline)
  | step {before after : Startup World} {turn : Turn}
      (reached : Reachable registrants pipeline before)
      (taken : before.step? registrants turn = some after) : Reachable registrants pipeline after

end Startup

end HttpService
