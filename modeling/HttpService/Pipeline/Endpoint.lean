import HttpService.Concurrency.Job
import HttpService.Fault

/-!
Contract: the handlers of one route.

Owns:
- the five methods that may have a handler, and which one serves a method;
- the methods that a route answers, and those that the server answers as a whole;
- the dispatch at the end of a chain, with the check of what the client accepts.

Does not own: what runs in front of the dispatch.
-/

namespace HttpService

/-- What a handler or a chain ends with. -/
abbrev Verdict (World : Type) := Except (Fault World) Unit

/-- A handler reads the request and writes the response. -/
abbrev Handler (World : Type) := Response → Request → Job World (Verdict World × Response)

/-- The handlers of a route, one for each method. -/
structure Endpoint (World : Type) where
  get : Option (Handler World)
  post : Option (Handler World)
  put : Option (Handler World)
  delete : Option (Handler World)
  patch : Option (Handler World)

namespace Endpoint

variable {World : Type}

def empty : Endpoint World :=
  ⟨none, none, none, none, none⟩

instance : Inhabited (Endpoint World) := ⟨empty⟩

/-- The handler that serves a method; HEAD is served by that of GET. -/
def handler? (endpoint : Endpoint World) : Method → Option (Handler World)
  | .get => endpoint.get
  | .head => endpoint.get
  | .post => endpoint.post
  | .put => endpoint.put
  | .delete => endpoint.delete
  | .patch => endpoint.patch
  | .options => none
  | .trace => none

/-- Sets the handler of a method; other methods than the five have none. -/
def withHandler (endpoint : Endpoint World) (method : Method) (handler : Handler World) :
    Endpoint World :=
  match method with
  | .get => { endpoint with get := some handler }
  | .post => { endpoint with post := some handler }
  | .put => { endpoint with put := some handler }
  | .delete => { endpoint with delete := some handler }
  | .patch => { endpoint with patch := some handler }
  | _ => endpoint

/-- A method, if there is a handler for it. -/
def listed (method : Method) (handler : Option (Handler World)) : List Method :=
  if handler.isSome then [method] else []

/-- The methods that the route answers, in a fixed order. -/
def allowedMethods (endpoint : Endpoint World) (allowTrace : Bool) : List Method :=
  (if endpoint.get.isSome then [.get, .head] else []) ++
    listed .post endpoint.post ++ listed .put endpoint.put ++
      listed .delete endpoint.delete ++ listed .patch endpoint.patch ++
        [.options] ++ if allowTrace then [.trace] else []

end Endpoint

def allowText (methods : List Method) : String :=
  ", ".intercalate (methods.map Method.token)

/-- The value of the `Allow` header of a route. -/
def Endpoint.allow {World : Type} (endpoint : Endpoint World) (allowTrace : Bool) : String :=
  allowText (endpoint.allowedMethods allowTrace)

/-- The methods that the server answers as a whole. -/
def serverMethods (allowTrace : Bool) : List Method :=
  [.get, .head, .post, .put, .delete, .patch, .options] ++ if allowTrace then [.trace] else []

/-- What a chain leaves: its verdict, the response and the request. -/
structure Outcome (World : Type) where
  verdict : Verdict World
  response : Response
  request : Request

/-- The end of a chain. -/
structure Terminal (World : Type) where
  endpoint : Option (Endpoint World)
  allowTrace : Bool
  strictAcceptance : Bool

namespace Terminal

variable {World : Type}

/-- With strict acceptance, a response of a type that the client does not accept is
refused. A response without a type passes. -/
def checkAcceptance (terminal : Terminal World) (response : Response) (request : Request) :
    Verdict World :=
  if terminal.strictAcceptance then
    match (response.headers.first? "Content-Type").bind MediaType.parse? with
    | none => .ok ()
    | some type =>
        if request.isAcceptable type then .ok ()
        else
          .error (.ofHttp ((HttpError.ofStatus .notAcceptable).withMessage
            ("Client does not accept " ++ type.render)))
  else .ok ()

/-- An answer without content that lists methods. -/
def answerAllow (response : Response) (allow : String) : Response :=
  { response with status := .noContent }.setHeader "Allow" allow

/-- Runs the handler for the method of a request. -/
def runHandler (terminal : Terminal World) (endpoint : Endpoint World)
    (response : Response) (request : Request) : Job World (Outcome World) :=
  match endpoint.handler? request.method with
  | none =>
      .done
        ⟨.error (.ofHttp (.methodNotAllowed (endpoint.allow terminal.allowTrace))), response, request⟩
  | some handler =>
      (handler response request).bind fun (verdict, response) =>
        match verdict with
        | .error fault => .done ⟨.error fault, response, request⟩
        | .ok () => .done ⟨terminal.checkAcceptance response request, response, request⟩

/-- Answers a request: the target `*` and OPTIONS with the allowed methods, TRACE with
the request itself where that is allowed, all else by the route's handler. -/
def dispatch (terminal : Terminal World) (response : Response) (request : Request) :
    Job World (Outcome World) :=
  if request.target.isAsterisk then
    .done ⟨.ok (), answerAllow response (allowText (serverMethods terminal.allowTrace)), request⟩
  else
    match terminal.endpoint with
    | none =>
        .done
          ⟨.error (.ofHttp ((HttpError.ofStatus .notFound).withMessage
            ("Invalid route: " ++ request.path))), response, request⟩
    | some endpoint =>
        if request.method = .options then
          .done ⟨.ok (), answerAllow response (endpoint.allow terminal.allowTrace), request⟩
        else if request.method = .trace ∧ terminal.allowTrace = true then
          .done
            ⟨.ok (), ({ response with status := .ok }).setTyped
              (.plain "message" "http") request.body, request⟩
        else terminal.runHandler endpoint response request

end Terminal

end HttpService
