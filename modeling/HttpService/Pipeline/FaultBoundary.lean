import HttpService.Pipeline.Config

/-!
Contract: faults as HTTP errors, and the responders for error responses.

Owns:
- the HTTP error that a fault stands for;
- responders, which rework the responses of one status;
- which statuses may have a responder.

Does not own: where faults come from.
-/

namespace HttpService

variable {World : Type}

/-- What reworks a response to a request. -/
abbrev Responder (World : Type) := Response → Request → Action World Response

/-- The HTTP error that a fault stands for when nothing maps it. -/
def Fault.defaultError : Fault World → HttpError World
  | .http status wording cause headers => ⟨status, wording, cause, headers⟩
  | .request error => .ofRequestError error
  | .transfer kind wording =>
      let status := match kind with
        | .notFound => Status.notFound
        | .permissionDenied => .forbidden
        | .other => .internalServerError
      (HttpError.ofStatus status).withCause (.transfer kind wording)
  | .deadlineExceeded => (HttpError.ofStatus .serviceUnavailable).withCause .deadlineExceeded
  | .json failure => (HttpError.ofStatus .badRequest).withCause (.json failure)
  | fault => (HttpError.ofStatus .internalServerError).withCause fault

/-- The HTTP error that a fault stands for. HTTP errors stand for themselves; all
others are first shown to the mapper, whose error is given the fault as its cause
unless it has one. -/
def Fault.resolve (mapper : Option (FaultMapper World)) (fault : Fault World) :
    Action World (HttpError World) :=
  match fault, mapper with
  | .http status wording cause headers, _ => .pure ⟨status, wording, cause, headers⟩
  | fault, none => .pure fault.defaultError
  | fault, some mapper =>
      (mapper fault).map fun
        | none => fault.defaultError
        | some error => if error.cause.isSome then error else error.withCause fault

/-- The responders of a service, one for a status. -/
structure Responders (World : Type) where
  entries : List (Status × Responder World)

namespace Responders

def empty : Responders World := ⟨[]⟩

def insert (responders : Responders World) (status : Status) (responder : Responder World) :
    Responders World :=
  ⟨(status, responder) :: responders.entries.filter (·.1 ≠ status)⟩

def find? (responders : Responders World) (status : Status) : Option (Responder World) :=
  responders.entries.lookup status

/-- Lets the responder of its status rework an error response. -/
def respond (responders : Responders World) (response : Response) (request : Request) :
    Action World Response :=
  match responders.find? response.status with
  | some responder => responder response request
  | none => .pure response

end Responders

end HttpService
