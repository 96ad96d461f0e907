import HttpService.Deadline
import HttpService.Json.Reader
import HttpService.MediaType
import HttpService.Method
import HttpService.Target

/-!
Contract: requests.

Owns:
- the parts of a request and what follows from its headers;
- the values that middleware attaches to a request;
- the views of the body as JSON and as text.

Does not own: how a request is read from the wire, and who fills in the address,
the host and the identifier.
-/

namespace HttpService

/-- A value attached to a request under a key. -/
inductive ContextValue where
  | text (value : String)
  | number (value : Nat)
deriving DecidableEq, Repr

structure Request where
  method : Method
  target : Target
  headers : Headers
  body : Bytes
  /-- The media type of the body, for methods that have one. -/
  mediaType : Option MediaType
  clientAddress : Option String
  userAgent : Option String
  /-- The host, once it has been checked. -/
  host : Option String
  /-- The media types that the client accepts. -/
  accepts : List MediaType
  id : Option String
  deadline : Deadline
  context : List (String × ContextValue)
deriving DecidableEq, Repr

namespace Request

/-- The media type that the headers declare, for methods that have a body. -/
def declaredType (method : Method) (headers : Headers) : Option MediaType :=
  if method.hasBody then (headers.first? "Content-Type").bind MediaType.parse? else none

/-- A request with the given parts; all else follows from the headers or is open. -/
def make (method : Method) (target : Target) (headers : Headers) (body : Bytes) : Request where
  method := method
  target := target
  headers := headers
  body := body
  mediaType := declaredType method headers
  clientAddress := none
  userAgent := headers.first? "User-Agent"
  host := none
  accepts := MediaType.accepted (headers.all? "Accept")
  id := none
  deadline := .never
  context := []

instance : Inhabited Request := ⟨make .get .asterisk .empty []⟩

def path (request : Request) : String :=
  request.target.pathText

/-- Whether the client accepts a media type. -/
def isAcceptable (request : Request) (type : MediaType) : Bool :=
  request.accepts.any (·.covers type)

/-- Attaches a value under a key, in the place of an earlier one. -/
def attach (request : Request) (key : String) (value : ContextValue) : Request :=
  { request with context := (key, value) :: request.context.filter (·.1 ≠ key) }

def attachedText? (request : Request) (key : String) : Option String :=
  match request.context.lookup key with
  | some (.text value) => some value
  | _ => none

def attachedNumber? (request : Request) (key : String) : Option Nat :=
  match request.context.lookup key with
  | some (.number value) => some value
  | _ => none

/-- Whether the body is declared with a type that answers for the given one. -/
def isDeclared (request : Request) (type : MediaType) : Bool :=
  match request.mediaType with
  | some declared => declared.covers type
  | none => false

/-- Whether the body is declared as JSON. -/
def isJson (request : Request) : Bool :=
  request.isDeclared .json

/-- The body as JSON, if it is declared as such. -/
def json (request : Request) : Except RequestError Json.Value :=
  if request.isJson then (Json.parse request.body).mapError .json
  else .error (.unsupportedMediaType MediaType.json.render)

/-- The body as text, if it is declared as such. -/
def text (request : Request) : Except RequestError String :=
  if request.isDeclared .textPlain then
    match Utf8.decode? request.body with
    | some text => .ok text
    | none => .error (.unsupportedMediaType "UTF-8 text")
  else .error (.unsupportedMediaType MediaType.textPlain.render)

end Request

end HttpService
