import HttpService.Concurrency.Job
import HttpService.Response
import HttpService.Request
import HttpService.Routing.Rewrite

/-!
Contract: what can go wrong while a request is answered, and the error responses
it leads to.

Owns:
- the errors of setting up and running a service;
- the errors that handlers and middleware may return;
- HTTP errors, their response, and the one that stands for a refused request.

Does not own: the choice of an HTTP error for any other fault.
-/

namespace HttpService

/-- The kinds of input and output errors that matter to a response. -/
inductive TransferKind where
  | notFound
  | permissionDenied
  | other
deriving DecidableEq, Repr

structure TransferError where
  kind : TransferKind
  text : String
deriving DecidableEq, Repr

/-- Why a service cannot be set up, started, or serve a connection. -/
inductive ServiceError where
  | request (error : RequestError)
  | transfer (error : TransferError)
  | rewrite (error : Routing.RewriteError)
  | pattern (error : Routing.PatternError)
  | alreadyStarted
  | json (failure : Json.Failure)
deriving DecidableEq, Repr

def ServiceError.message : ServiceError → String
  | request error => "Parse error: " ++ error.message
  | transfer error => "I/O error: " ++ error.text
  | rewrite error => "Rewrite configuration error: " ++ error.message
  | pattern error => "Invalid pattern: " ++ error.message
  | alreadyStarted => "Server has already been started"
  | json failure => "JSON error: " ++ failure.message

/-- What a handler or middleware may return instead of success. The wording of an error that the
application has made is code of the application: it runs whenever the error is put into words, and
may panic. -/
inductive Fault (World : Type) where
  /-- An HTTP error: its status, message, cause and headers. -/
  | http (status : Status) (message : Option String) (cause : Option (Fault World))
      (headers : Headers)
  | request (error : RequestError)
  | service (error : ServiceError)
  | transfer (kind : TransferKind) (wording : Action World String)
  | json (failure : Json.Failure)
  | deadlineExceeded
  /-- An error of the application: what it can be told apart by, and its wording. -/
  | application (mark : String) (wording : Action World String)
  /-- A bare text used as an error. -/
  | text (text : String)

/-- An error that says which response it leads to. -/
structure HttpError (World : Type) where
  status : Status
  text : Option String
  cause : Option (Fault World)
  headers : Headers

variable {World : Type}

/-- The body of an error response: the code and the message, or the reason phrase. -/
def errorBody (status : Status) (message : Option String) : String :=
  toString status.code ++ ": " ++ message.getD status.reason

/-- Puts a fault into words. -/
def Fault.message : Fault World → Action World String
  | http status own none _ => .pure (errorBody status own)
  | http status own (some cause) _ =>
      cause.message.map fun wording => errorBody status own ++ " (" ++ wording ++ ")"
  | request error => .pure error.message
  | service error => .pure error.message
  | transfer _ wording => wording
  | json failure => .pure failure.message
  | deadlineExceeded => .pure "request deadline exceeded"
  | application _ wording => wording
  | text wording => .pure wording

def Fault.ofHttp (error : HttpError World) : Fault World :=
  .http error.status error.text error.cause error.headers

namespace HttpError

/-- An error with a status only. -/
def ofStatus (status : Status) : HttpError World :=
  ⟨status, none, none, .empty⟩

instance : Inhabited (HttpError World) := ⟨ofStatus .internalServerError⟩

/-- Errors are the same if they lead to the same status. -/
instance : BEq (HttpError World) := ⟨fun left right => left.status == right.status⟩

def withMessage (error : HttpError World) (message : String) : HttpError World :=
  { error with text := some message }

def withCause (error : HttpError World) (cause : Fault World) : HttpError World :=
  { error with cause := some cause }

def withHeader (error : HttpError World) (name value : String) : HttpError World :=
  { error with headers := error.headers.set name value }

/-- A refused method, with the methods that are allowed. -/
def methodNotAllowed (allow : String) : HttpError World :=
  (ofStatus .methodNotAllowed).withHeader "Allow" allow

def body (error : HttpError World) : String :=
  errorBody error.status error.text

/-- Puts the error into words, with its cause. -/
def message (error : HttpError World) : Action World String :=
  (Fault.ofHttp error).message

end HttpError

/-- The status that a refused request is answered with. -/
def RequestError.status : RequestError → Status
  | .unknownMethod _ => .notImplemented
  | .unsupportedVersion _ => .httpVersionNotSupported
  | .targetTooLong _ => .uriTooLong
  | .bodyTooLarge .. => .contentTooLarge
  | .unsupportedMediaType _ => .unsupportedMediaType
  | _ => .badRequest

/-- The wording of the HTTP error for a refused request, with its cause. -/
def RequestError.wording (error : RequestError) : String :=
  errorBody error.status (some error.message) ++ " (" ++ error.message ++ ")"

/-- The HTTP error for a refused request. -/
def HttpError.ofRequestError (error : RequestError) : HttpError World :=
  ((ofStatus error.status).withMessage error.message).withCause (.request error)

/-- Turns a response into an error response. Headers that are already there stay
unless the error sets them. -/
def Response.writeError (response : Response) (error : HttpError World) : Response :=
  ({ response with
      status := error.status
      headers := response.headers.merge error.headers }).setText error.body

end HttpService
