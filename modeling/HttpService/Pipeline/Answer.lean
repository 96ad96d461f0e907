import HttpService.Concurrency.Machine
import HttpService.Pipeline.FaultBoundary
import HttpService.Routing.Router

/-!
Contract: the answer to one request.

Owns:
- the pipeline: rewriting, routing, the chain under its deadline, and the fault
  boundary around them;
- the responses to errors and panics, the responders, and HEAD;
- what is reported about a request, and the wording of errors that are reported;
- panics outside the fault boundary.

Does not own: how requests arrive and responses leave.
-/

namespace HttpService

/-- Everything that is needed to answer requests. -/
structure Pipeline (World : Type) where
  config : Config World
  router : Routing.Router (Endpoint World)
  rewrites : Routing.RewriteTable
  /-- The guards, followed by the middleware of the application. -/
  middleware : List (Middleware World)
  responders : Responders World

/-- The machine that the chains of a service run on. -/
abbrev Engine (World : Type) := Machine World (Outcome World)

/-- How the work on a request ends: with an outcome, or with a panic. After a panic
the response and the request are those from before the chain. -/
inductive Ending (World : Type) where
  | finished (outcome : Outcome World)
  | panicked (payload : Panic) (response : Response) (request : Request)

/-- The name of the other end of a connection in reports. -/
def describePeer (peer : Option Network.SocketAddress) : String :=
  match peer with
  | some address => address.render
  | none => "unknown peer"

/-- The guards that a configuration asks for, in the order in which they run. -/
def guards {World : Type} (config : Config World) : List (Middleware World) :=
  [Guard.singletons (Guard.singletonsWith config.singletonHeaders),
    Guard.host config.allowedHosts] ++
      match config.idSource with
      | some source => [Guard.identify source config.idHeader]
      | none => []

namespace Pipeline

variable {World : Type}

/-- The end of the chain for a routed request. -/
def terminal (pipeline : Pipeline World) (endpoint : Option (Endpoint World)) : Terminal World :=
  ⟨endpoint, pipeline.config.allowTrace, pipeline.config.strictAcceptance⟩

def chain (pipeline : Pipeline World) (endpoint : Option (Endpoint World)) : Chain World :=
  .ofList (pipeline.terminal endpoint).dispatch pipeline.middleware

/-- Runs a chain on a response and a request until the deadline. In time, what the
chain made of them counts; afterwards they count as they were given, and the chain goes
on by itself. -/
def race (chain : Chain World) (response : Response) (request : Request)
    (engine : Engine World) : Ending World × Engine World :=
  let (id, engine) := engine.spawn (chain.proceed response request)
  match engine.await id (request.deadline.moment.getD engine.clock) with
  | (some (.ok outcome), engine) => (.finished outcome, engine)
  | (some (.error payload), engine) => (.panicked payload response request, engine)
  | (none, engine) =>
      (.finished ⟨.error .deadlineExceeded, response, request⟩,
        engine.report .warn
          ("Request " ++ request.method.token ++ " " ++ request.path ++ " exceeded its deadline"))

/-- Rewrites and routes a request, and runs its chain. -/
def run (pipeline : Pipeline World) (response : Response) (request : Request)
    (engine : Engine World) : Ending World × Engine World :=
  let rewritten := pipeline.rewrites.rewrite request.target
  let engine := engine.reportAll rewritten.reports
  match rewritten.result with
  | .error error =>
      (.finished ⟨.error (.request error), response, { request with target := rewritten.target }⟩,
        engine)
  | .ok _ =>
      match pipeline.router.route? rewritten.target with
      | some (endpoint, target) =>
          race (pipeline.chain (some endpoint)) response { request with target := target } engine
      | none =>
          race (pipeline.chain none) response { request with target := rewritten.target } engine

def accessText (request : Request) (response : Response) : String :=
  request.method.token ++ " " ++ request.path ++ " " ++ toString response.status.code ++
    " (edge " ++ request.target.edgePathText ++ ", raw " ++ request.target.rawPath ++
    ") ua=" ++ request.userAgent.getD "-" ++ " ip=" ++ request.clientAddress.getD "-"

/-- The level of the report on an answered request. -/
def accessLevel (status : Status) : LogLevel :=
  if status.isServerError then .error else if status.isClientError then .warn else .info

/-- Reports a failure of the server. To be reported, its error is put into words. -/
def reportError (request : Request) (error : HttpError World) (engine : Engine World) :
    Except Panic Unit × Engine World :=
  if error.status.isServerError then
    Machine.andThen (engine.perform error.message) fun wording engine =>
      (.ok (),
        engine.report .error
          (request.method.token ++ " " ++ request.path ++ " failed: " ++ wording))
  else (.ok (), engine)

/-- Reports what the body of a failed request was, if that is asked for. -/
def reportBody (pipeline : Pipeline World) (request : Request) (engine : Engine World) :
    Engine World :=
  if pipeline.config.debug then
    engine.report .debug ("Body of failed request: " ++ Utf8.decodeLossy request.body)
  else engine

/-- Reports a request if it has failed. -/
def reportFailure (pipeline : Pipeline World) (request : Request)
    (error : Option (HttpError World)) (engine : Engine World) :
    Except Panic Unit × Engine World :=
  match error with
  | none => (.ok (), engine)
  | some error =>
      Machine.andThen (reportError request error engine) fun _ engine =>
        (.ok (), pipeline.reportBody request engine)

/-- What an ending stands for: the error if it failed, the response and the request. -/
def judge (pipeline : Pipeline World) (ending : Ending World) (engine : Engine World) :
    Except Panic (Option (HttpError World) × Response × Request) × Engine World :=
  match ending with
  | .finished ⟨.ok (), response, request⟩ => (.ok (none, response, request), engine)
  | .finished ⟨.error fault, response, request⟩ =>
      engine.perform
        ((fault.resolve pipeline.config.mapper).map fun error => (some error, response, request))
  | .panicked payload response request =>
      (.ok (some (.ofStatus .internalServerError), response, request),
        engine.report .error
          ("Handler for " ++ request.method.token ++ " " ++ request.path ++ " panicked: " ++
            payload.message))

/-- Lets the responder of an error response rework it. -/
def applyResponder (pipeline : Pipeline World) (response : Response) (request : Request)
    (engine : Engine World) : Except Panic Response × Engine World :=
  if response.status.isError then
    engine.perform (pipeline.responders.respond response request)
  else (.ok response, engine)

/-- A response as it is sent: without its body after HEAD. -/
def withoutHeadBody (request : Request) (response : Response) : Response :=
  if request.method = .head then response.stripBody else response

/-- A response with an error written on it, if there is one. -/
def written (error : Option (HttpError World)) (response : Response) : Response :=
  match error with
  | some error => response.writeError error
  | none => response

/-- Sends a response to its responder, drops the body after HEAD, and reports the answer. -/
def deliverTo (pipeline : Pipeline World) (response : Response) (request : Request)
    (engine : Engine World) : Except Panic Response × Engine World :=
  Machine.andThen (pipeline.applyResponder response request engine) fun response engine =>
    let response := withoutHeadBody request response
    (.ok response, engine.report (accessLevel response.status) (accessText request response))

/-- The response to octets that are no request, or to none. Its error is the service's own. -/
def rejection (error : HttpError Unit) : Response :=
  (Response.ofStatus error.status).writeError error

/-- The panic of a deadline that the clock cannot tell. -/
def deadlineTooFar : Panic := ⟨some "overflow when adding duration to instant"⟩

/-- Works on a request that has been read until its deadline: the response, with the error of the
work written on it, and the request that is left. -/
def prepare (pipeline : Pipeline World) (request : Request)
    (peer : Option Network.SocketAddress) (engine : Engine World) :
    Except Panic (Response × Request) × Engine World :=
  match Deadline.after? engine.clock pipeline.config.writeTimeout with
  | none => (.error deadlineTooFar, engine)
  | some deadline =>
      let request :=
        { request with
          clientAddress := peer.map (·.ip.render)
          deadline := deadline }
      let (ending, engine) := pipeline.run (.forMethod request.method) request engine
      Machine.andThen (pipeline.judge ending engine) fun (error, response, request) engine =>
        Machine.andThen (pipeline.reportFailure request error engine) fun _ engine =>
          (.ok (written error response, request), engine)

/-- Answers a request that has been read. -/
def answer (pipeline : Pipeline World) (request : Request)
    (peer : Option Network.SocketAddress) (engine : Engine World) :
    Except Panic Response × Engine World :=
  Machine.andThen (pipeline.prepare request peer engine) fun (response, request) engine =>
    pipeline.deliverTo response request engine

/-- Answers the octets of a request. A deadline that the clock cannot tell, and a panic of the
mapper, of the wording of an error or of a responder, are not contained. -/
def handle (pipeline : Pipeline World) (raw : Bytes) (peer : Option Network.SocketAddress)
    (engine : Engine World) : Except Panic Response × Engine World :=
  match Wire.readRequest raw pipeline.config.maxBody with
  | .error error =>
      (.ok (rejection (.ofRequestError error)),
        engine.report .warn
          ("Rejected request from " ++ describePeer peer ++ ": " ++ error.wording))
  | .ok request => pipeline.answer request peer engine

end Pipeline

end HttpService
