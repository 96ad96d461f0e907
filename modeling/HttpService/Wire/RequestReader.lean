import HttpService.Request
import HttpService.Wire.Lines

/-!
Contract: reading a request from octets.

Owns:
- the request line, its version and the length of its target;
- the header lines up to the empty line;
- the body, whose length the headers declare.

Does not own: where in a stream a request ends.
-/

namespace HttpService.Wire

open Text

/-- The only version that is served. -/
def version : String := "HTTP/1.1"

/-- Longest target in octets. -/
def maxTargetLength : Nat := 8192

/-- Longest body in octets unless configured otherwise. -/
def defaultMaxBody : Nat := 8192

/-- Reads the three parts of a request line as method, target and version. -/
def readParts (method target protocol : List Char) : Except RequestError (Method × Target) :=
  match Method.ofToken? (String.ofList method) with
  | none => .error (.unknownMethod (String.ofList method))
  | some method =>
      if String.ofList protocol ≠ version then
        .error (.unsupportedVersion (String.ofList protocol))
      else
        let raw := String.ofList target
        if raw = "*" ∧ method ≠ .options then .error (.asteriskTarget method.token)
        else if raw.utf8ByteSize > maxTargetLength then .error (.targetTooLong raw.utf8ByteSize)
        else (Target.parse raw).map fun target => (method, target)

/-- Reads the request line: three parts with single spaces between them. -/
def readRequestLine (line : Bytes) : Except RequestError (Method × Target) :=
  match Utf8.decode? line with
  | none => .error (.malformedLine "Invalid UTF-8")
  | some text =>
      match text.toList.splitOn ' ' with
      | [method, target, protocol] => readParts method target protocol
      | _ => .error (.malformedLine text)

/-- Reads a header line. The name stands directly in front of the first colon,
without white space around it; the value is trimmed. -/
def readField (line : Bytes) : Except RequestError (String × String) :=
  match Utf8.decode? line with
  | none => .error .invalidHeader
  | some text =>
      match cut? ':' text.toList with
      | none => .error .invalidHeader
      | some (name, value) =>
          if name = [] ∨ trim name ≠ name then .error .invalidHeader
          else .ok (String.ofList name, String.ofList (trim value))

/-- Reads header lines up to the empty line; also returns the place behind it. -/
def readHeaderLines (headers : Headers) (cursor : LineCursor) :
    Except RequestError (Headers × LineCursor) :=
  match _ : cursor.next with
  | (none, _) => .error .unterminatedHeaders
  | (some line, behind) =>
      if line = [] then .ok (headers, behind)
      else
        match readField line with
        | .error error => .error error
        | .ok (name, value) => readHeaderLines (headers.append name value) behind
termination_by cursor.left
decreasing_by exact LineCursor.left_next ‹cursor.next = _›

/-- The body among the octets after the head. A TRACE request is its own body. -/
def readBody (input : Bytes) (method : Method) (length : Nat) (available : Bytes) :
    Except RequestError Bytes :=
  if method = .trace then .ok input
  else if length = 0 ∨ method.hasBody = false then .ok []
  else if available.length < length then .error (.incompleteBody length available.length)
  else .ok (available.take length)

/-- Reads a request whose body has at most `maxBody` octets. -/
def readRequest (input : Bytes) (maxBody : Nat) : Except RequestError Request :=
  if input = [] then .error .empty
  else if crlfCount input < 2 then .error (.malformedLine (Utf8.decodeLossy input))
  else
    match (LineCursor.start input).next with
    | (none, _) => .error .empty
    | (some line, cursor) =>
        match readRequestLine line with
        | .error error => .error error
        | .ok (method, target) =>
            match readHeaderLines .empty cursor with
            | .error error => .error error
            | .ok (headers, cursor) =>
                let length := headers.contentLength
                if length > maxBody then .error (.bodyTooLarge length maxBody)
                else if Request.declaredType method headers = none ∧ length ≠ 0 ∧
                    method.hasBody = true then .error .missingMediaType
                else
                  (readBody input method length (input.drop cursor.offset)).map
                    (Request.make method target headers)

end HttpService.Wire
