import HttpService.Json.Writer
import HttpService.MediaType
import HttpService.Method
import HttpService.Status
import HttpService.Text.Utf8

/-!
Contract: responses.

Owns:
- the response a handler starts from;
- bodies, which bring their length and media type along;
- the octets that are sent.

Does not own: the responses to errors.
-/

namespace HttpService

structure Response where
  status : Status
  headers : Headers
  body : Bytes
deriving DecidableEq, Repr

namespace Response

/-- The name that every response carries. -/
def serverName : String := "microroute-rs"

def ofStatus (status : Status) : Response :=
  ⟨status, Headers.empty.set "Server" serverName, []⟩

instance : Inhabited Response := ⟨ofStatus .ok⟩

/-- The status that a method is answered with unless something else is said. -/
def defaultStatus : Method → Status
  | .post => .created
  | .delete => .noContent
  | _ => .ok

/-- The response that a handler starts from. -/
def forMethod (method : Method) : Response :=
  ofStatus (defaultStatus method)

def setHeader (response : Response) (name value : String) : Response :=
  { response with headers := response.headers.set name value }

def appendHeader (response : Response) (name value : String) : Response :=
  { response with headers := response.headers.append name value }

def removeHeader (response : Response) (name : String) : Response :=
  { response with headers := response.headers.erase name }

/-- Sets the body and its length. -/
def setBody (response : Response) (body : Bytes) : Response :=
  { response with
    body := body
    headers := response.headers.set "Content-Length" (toString body.length) }

/-- Sets a body with its media type. -/
def setTyped (response : Response) (type : MediaType) (body : Bytes) : Response :=
  (response.setHeader "Content-Type" type.render).setBody body

def setText (response : Response) (text : String) : Response :=
  response.setTyped (MediaType.textPlain.withCharset "utf-8") (Utf8.encode text)

/-- Sets a JSON value as the body. -/
def setJson (response : Response) (value : Json.Value) : Response :=
  response.setTyped MediaType.json (Utf8.encode value.render)

/-- States the length of the body if it is not stated. -/
def stateLength (response : Response) : Response :=
  if response.headers.contains "Content-Length" then response
  else response.setHeader "Content-Length" (toString response.body.length)

/-- Drops the body and keeps the headers that describe it. -/
def stripBody (response : Response) : Response :=
  { response.stateLength with body := [] }

/-- The line in front of the headers. -/
def statusLine (status : Status) : String :=
  "HTTP/1.1 " ++ toString status.code ++ " " ++ status.reason ++ "\r\n"

def headerLine (field : String × String) : String :=
  field.1 ++ ": " ++ field.2 ++ "\r\n"

/-- The header fields that are sent: the length is added at the end if it is not stated. -/
def sentFields (response : Response) : List (String × String) :=
  response.headers.toList ++
    if response.headers.contains "Content-Length" then []
    else [("Content-Length", toString response.body.length)]

def toBytes (response : Response) : Bytes :=
  Utf8.encode (statusLine response.status) ++
    (response.sentFields.flatMap fun field => Utf8.encode (headerLine field)) ++
      Utf8.encode "\r\n" ++ response.body

end Response

end HttpService
