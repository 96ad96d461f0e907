import HttpService.Json.Failure

/-!
Contract: why a request, or a view of its body, is refused.

Owns: the causes and their wording.

Does not own: the response status that a cause leads to.
-/

namespace HttpService

inductive RequestError where
  /-- There are no bytes at all. -/
  | empty
  /-- The request line does not have three parts, or is not text. -/
  | malformedLine (line : String)
  | unknownMethod (token : String)
  | unsupportedVersion (version : String)
  /-- The target `*` belongs to OPTIONS alone. -/
  | asteriskTarget (method : String)
  | targetTooLong (length : Nat)
  | invalidTarget (part : String)
  | invalidQuery (query : String)
  | invalidHeader
  | unterminatedHeaders
  | repeatedHeader (name : String)
  | bodyTooLarge (length max : Nat)
  /-- A body is announced without a usable media type. -/
  | missingMediaType
  | incompleteBody (expected received : Nat)
  | missingHeader (name : String)
  | unsupportedMediaType (expected : String)
  | json (failure : Json.Failure)
deriving DecidableEq, Repr

def RequestError.message : RequestError → String
  | empty => "Empty request"
  | malformedLine line => "Malformed request line: " ++ line
  | unknownMethod token => "Invalid HTTP method: " ++ token
  | unsupportedVersion version => "Unsupported HTTP version: " ++ version
  | asteriskTarget method => "Invalid request-target for method " ++ method
  | targetTooLong length => "Request target is " ++ toString length ++ " bytes long"
  | invalidTarget part => "Invalid request target: " ++ part
  | invalidQuery query => "Invalid query string: " ++ query
  | invalidHeader => "Invalid header format"
  | unterminatedHeaders => "Header section is not terminated"
  | repeatedHeader name => "Header " ++ name ++ " should only be present once"
  | bodyTooLarge length max =>
      "Content-Length " ++ toString length ++ " exceeds the maximum of " ++ toString max ++ " bytes"
  | missingMediaType => "Cannot specify a Content-Length without Content-Type"
  | incompleteBody expected received =>
      "Expected " ++ toString expected ++ " body bytes, received " ++ toString received
  | missingHeader name => "Required header is missing: " ++ name
  | unsupportedMediaType expected => "Unsupported media type, expected " ++ expected
  | json failure => "JSON parsing error: " ++ failure.message

end HttpService
