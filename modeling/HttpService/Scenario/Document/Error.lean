import HttpService.Json.Decode
import HttpService.Json.Reader
import HttpService.Scenario.Journal

/-!
Contract: errors described as JSON values.

Owns: the descriptions of refused requests, of HTTP errors, and of the faults that a
script may end with.

Does not own: what the errors lead to.
-/

namespace HttpService.Scenario.Document

open Json

def method : Decoder Method :=
  fun value => (Decode.text value).bind Method.ofToken?

def status : Decoder Status :=
  fun value => (Decode.natural value).bind Status.ofCode?

/-- A media type: its kind, its subtype and maybe its charset. -/
def mediaType : Decoder MediaType
  | .array (kind :: subtype :: rest) => do
      let type := MediaType.plain (← Decode.text kind) (← Decode.text subtype)
      match rest with
      | [] => some type
      | [.null] => some type
      | [charset] => (Decode.text charset).map type.withCharset
      | _ => none
  | _ => none

/-- What is wrong with a text as JSON; a JSON text has no such description. -/
def jsonFailure (content : String) : Option Failure :=
  match parseText content with
  | .error failure => some failure
  | .ok _ => none

/-- The reason for which a request is refused. -/
def requestError : Decoder RequestError := fun value => do
  let wording ← value.withDefault? "text" Decode.text ""
  let count := fun (key : String) => value.withDefault? key Decode.natural 0
  match ← value.required? "kind" Decode.text with
  | "EmptyRequest" => some .empty
  | "MalformedRequestLine" => some (.malformedLine wording)
  | "InvalidMethod" => some (.unknownMethod wording)
  | "UnsupportedVersion" => some (.unsupportedVersion wording)
  | "InvalidTargetForMethod" => some (.asteriskTarget wording)
  | "UriTooLong" => (count "length").map .targetTooLong
  | "InvalidUri" => some (.invalidTarget wording)
  | "InvalidQuery" => some (.invalidQuery wording)
  | "InvalidHeaderFormat" => some .invalidHeader
  | "UnterminatedHeaders" => some .unterminatedHeaders
  | "RepeatedHeader" => some (.repeatedHeader wording)
  | "ContentTooLarge" => some (.bodyTooLarge (← count "length") (← count "max"))
  | "MissingContentType" => some .missingMediaType
  | "IncompleteBody" => some (.incompleteBody (← count "expected") (← count "received"))
  | "MissingHeader" => some (.missingHeader wording)
  | "UnsupportedMediaType" => some (.unsupportedMediaType wording)
  | "JsonError" => (jsonFailure wording).map .json
  | _ => none

/-- The statuses that errors are named after. -/
def namedStatus? : String → Option Status
  | "bad_request" => some .badRequest
  | "unauthorized" => some .unauthorized
  | "forbidden" => some .forbidden
  | "not_found" => some .notFound
  | "not_acceptable" => some .notAcceptable
  | "request_timeout" => some .requestTimeout
  | "content_too_large" => some .contentTooLarge
  | "uri_too_long" => some .uriTooLong
  | "unsupported_media_type" => some .unsupportedMediaType
  | "unprocessable_content" => some .unprocessableContent
  | "too_many_requests" => some .tooManyRequests
  | "internal_server_error" => some .internalServerError
  | "not_implemented" => some .notImplemented
  | "bad_gateway" => some .badGateway
  | "service_unavailable" => some .serviceUnavailable
  | "gateway_timeout" => some .gatewayTimeout
  | "http_version_not_supported" => some .httpVersionNotSupported
  | _ => none

/-- An HTTP error by its status or its name, with nothing added. -/
def bareError : Decoder HttpError := fun value =>
  match value.given? "status", value.given? "from_status" with
  | some code, _ => (status code).map .ofStatus
  | none, some code => (status code).map .ofStatus
  | none, none => do
      match ← value.required? "ctor" Decode.text with
      | "method_not_allowed" =>
          (value.withDefault? "allow" Decode.text "").map .methodNotAllowed
      | name => (namedStatus? name).map .ofStatus

/-- Adds a message and headers to an HTTP error. -/
def withDetails (error : HttpError) (cause : Option Fault) : Decoder HttpError := fun value => do
  let message ← value.optional? "message" Decode.text
  let headers ← value.listed? "headers" Decode.textPair
  let error := (message.map error.withMessage).getD error
  let error := (cause.map error.withCause).getD error
  some (headers.foldl (fun error (name, content) => error.withHeader name content) error)

/-- An error of an application, known by its text. -/
def worded (wording : String) : Fault :=
  .application wording (.pure wording)

mutual

/-- An HTTP error with its message, cause and headers. -/
def httpError (value : Value) : Option HttpError := do
  let error ← bareError value
  match _given : value.given? "cause" with
  | none => withDetails error none value
  | some description =>
      let fault ← cause description
      withDetails error (some fault) value
termination_by sizeOf value
decreasing_by exact sizeOf_given? _given

/-- The cause of an HTTP error: another one, or an application's error. -/
def cause (value : Value) : Option Fault :=
  match _given : value.given? "error" with
  | some nested => (httpError nested).map Fault.ofHttp
  | none => (Decode.text value).map worded
termination_by sizeOf value
decreasing_by exact sizeOf_given? _given

end

/-- The kind of an input or output error. -/
def transferKind : String → TransferKind
  | "NotFound" => .notFound
  | "PermissionDenied" => .permissionDenied
  | _ => .other

def fault : Decoder Fault := fun value => do
  let wording ← value.withDefault? "text" Decode.text ""
  let request := value.required? "parser" requestError
  match ← value.required? "type" Decode.text with
  | "http" => (httpError value).map .ofHttp
  | "io" => do
      let kind ← value.required? "io" Decode.text
      some (.transfer (transferKind kind) (.pure wording))
  | "parser" => request.map .request
  | "server_parse" => request.map fun error => .service (.request error)
  | "server_started" => some (.service .alreadyStarted)
  | "json" => (jsonFailure wording).map .json
  | "custom" => some (worded wording)
  | "string" => some (.text wording)
  | "deadline" => some .deadlineExceeded
  | _ => none

end HttpService.Scenario.Document
