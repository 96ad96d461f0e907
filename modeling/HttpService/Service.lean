import HttpService.Pipeline.Connection

/-!
Contract: a service from its setup to its start.

Owns:
- setting up a service from its configuration;
- registering routes, middleware and responders, which ends when the service starts;
- starting, at most once, and what is reported then.

Does not own: accepting connections.
-/

namespace HttpService

structure Service (World : Type) where
  pipeline : Pipeline World
  started : Bool

inductive RegistrationError where
  /-- The service has started; what was to be registered. -/
  | afterStart (what : String)
  | invalidRoute (pattern : String) (error : Routing.PatternError)
  | invalidNamespace (base : String) (error : Routing.PatternError)
  /-- Only error statuses have responders. -/
  | noErrorStatus (status : Status)
deriving DecidableEq, Repr

def RegistrationError.message : RegistrationError → String
  | afterStart what => "cannot register " ++ what ++ " after the server has started"
  | invalidRoute pattern error =>
      "invalid route " ++ Text.Quoted.text pattern ++ ": " ++ error.message
  | invalidNamespace base error =>
      "invalid routes under namespace " ++ Text.Quoted.text base ++ ": " ++ error.message
  | noErrorStatus status =>
      "error responders can only be registered for 4xx and 5xx statuses, got " ++
        toString status.code

namespace Service

variable {World : Type}

/-- Loads the rewrite rules that are configured. -/
def loadRewrites (config : Config World) (files : Files) :
    Except ServiceError Routing.RewriteTable × List LogRecord :=
  match config.rewritePath with
  | none => (.ok .empty, [])
  | some path =>
      let (result, reports) := Routing.RewriteTable.load files path
      (result.mapError .rewrite, reports)

/-- Sets up a service: the namespace has to be a pattern, and the rewrite rules have to
load. -/
def create (config : Config World) (files : Files) :
    Except ServiceError (Service World) × List LogRecord :=
  match Routing.Router.ofNamespace config.namespacePath with
  | .error error => (.error (.pattern error), [])
  | .ok router =>
      let (loaded, reports) := loadRewrites config files
      (loaded.map fun rewrites =>
        { pipeline :=
            { config := config
              router := router
              rewrites := rewrites
              middleware := guards config
              responders := .empty }
          started := false },
        reports)

/-- What a registration leads to: an error, the service, and reports. -/
abbrev Registration (World : Type) := Option RegistrationError × Service World × List LogRecord

/-- Registers something unless the service has started. -/
def register (service : Service World) (what : String)
    (change : Pipeline World → Option RegistrationError × Pipeline World × List LogRecord) :
    Registration World :=
  if service.started then (some (.afterStart what), service, [])
  else
    let (error, pipeline, reports) := change service.pipeline
    (error, { service with pipeline := pipeline }, reports)

/-- Registers a route. The latest handlers of a route count. -/
def addRoute (service : Service World) (pattern : String) (endpoint : Endpoint World) :
    Registration World :=
  service.register "routes" fun pipeline =>
    match pipeline.router.add pattern endpoint with
    | .error error => (some (.invalidRoute pattern error), pipeline, [])
    | .ok (replaced, router) =>
        (none, { pipeline with router := router },
          if replaced.isSome then
            [⟨.warn, "Route " ++ pattern ++ " was registered twice, keeping the latest handler"⟩]
          else [])

/-- Registers routes under a namespace. The routes in front of one that fails stay. -/
def addRoutesUnder (service : Service World) (base : String)
    (routes : List (String × Endpoint World)) : Registration World :=
  service.register "routes" fun pipeline =>
    let (error, router) := pipeline.router.addUnder base routes
    (error.map (.invalidNamespace base), { pipeline with router := router }, [])

/-- Registers middleware, which runs behind all that is registered before. -/
def addMiddleware (service : Service World) (middleware : Middleware World) :
    Registration World :=
  service.register "middleware" fun pipeline =>
    (none, { pipeline with middleware := pipeline.middleware ++ [middleware] }, [])

/-- Registers the responder of an error status. -/
def addResponder (service : Service World) (status : Status) (responder : Responder World) :
    Registration World :=
  service.register "error responders" fun pipeline =>
    if status.isError then
      (none, { pipeline with responders := pipeline.responders.insert status responder }, [])
    else (some (.noErrorStatus status), pipeline, [])

/-- Most permits that there may be. -/
def maxPermits : Nat := Nat.pow 2 61 - 1

/-- The panic of a service that is to have more permits than there may be. -/
def tooManyPermits : Panic :=
  ⟨some ("a semaphore may not have more than MAX_PERMITS permits (" ++ toString maxPermits ++ ")")⟩

/-- The version that is reported at the start. -/
def versionText : String := "microroute-rs 0.1.0"

/-- What is reported when a service starts. -/
def banner (service : Service World) : List LogRecord :=
  let pipeline := service.pipeline
  let endpoints := pipeline.router.toList.map fun (pattern, endpoint) =>
    LogRecord.mk .info
      ("  " ++ endpoint.allow pipeline.config.allowTrace ++ " " ++ pattern.render)
  let rewrites :=
    if pipeline.rewrites.isEmpty then []
    else [LogRecord.mk .info (toString pipeline.rewrites.size ++ " URL rewrites active")]
  [⟨.info, versionText⟩, ⟨.info, "Registered endpoints:"⟩] ++ endpoints ++ rewrites

/-- The report that a service has taken its address. -/
def listeningRecord (service : Service World) : LogRecord :=
  ⟨.info, "Server listening on http://" ++ service.pipeline.config.address.render⟩

/-- Starts a service; `bound` is what it gets when it asks for its address. A service that does
not get it may be started again. More connections than there may be permits end the start in a
panic. -/
def start (service : Service World) (bound : Except TransferError Unit) :
    Except Panic (Except ServiceError Unit) × Service World × List LogRecord :=
  if service.started then (.ok (.error .alreadyStarted), service, [])
  else
    match bound with
    | .error error => (.ok (.error (.transfer error)), service, service.banner)
    | .ok () =>
        (if maxPermits < service.pipeline.config.maxConnections then .error tooManyPermits
          else .ok (.ok ()),
          { service with started := true }, service.banner ++ [service.listeningRecord])

end Service

end HttpService
