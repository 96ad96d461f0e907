/-!
Contract: the response statuses, their codes and their reason phrases.

Owns: the closed set of statuses and the classes of client and server errors.
-/

namespace HttpService

inductive Status where
  | ok | created | accepted | noContent
  | badRequest | unauthorized | forbidden | notFound | methodNotAllowed | notAcceptable
  | requestTimeout | contentTooLarge | uriTooLong | unsupportedMediaType
  | unprocessableContent | tooManyRequests
  | internalServerError | notImplemented | badGateway | serviceUnavailable
  | gatewayTimeout | httpVersionNotSupported
deriving DecidableEq, Repr

namespace Status

def all : List Status :=
  [ok, created, accepted, noContent, badRequest, unauthorized, forbidden, notFound,
    methodNotAllowed, notAcceptable, requestTimeout, contentTooLarge, uriTooLong,
    unsupportedMediaType, unprocessableContent, tooManyRequests, internalServerError,
    notImplemented, badGateway, serviceUnavailable, gatewayTimeout, httpVersionNotSupported]

def code : Status → Nat
  | ok => 200
  | created => 201
  | accepted => 202
  | noContent => 204
  | badRequest => 400
  | unauthorized => 401
  | forbidden => 403
  | notFound => 404
  | methodNotAllowed => 405
  | notAcceptable => 406
  | requestTimeout => 408
  | contentTooLarge => 413
  | uriTooLong => 414
  | unsupportedMediaType => 415
  | unprocessableContent => 422
  | tooManyRequests => 429
  | internalServerError => 500
  | notImplemented => 501
  | badGateway => 502
  | serviceUnavailable => 503
  | gatewayTimeout => 504
  | httpVersionNotSupported => 505

/-- The phrase that follows the code on the status line. -/
def reason : Status → String
  | ok => "OK"
  | created => "Created"
  | accepted => "Accepted"
  | noContent => "No Content"
  | badRequest => "Bad Request"
  | unauthorized => "Unauthorized"
  | forbidden => "Forbidden"
  | notFound => "Not Found"
  | methodNotAllowed => "Method Not Allowed"
  | notAcceptable => "Not Acceptable"
  | requestTimeout => "Request Timeout"
  | contentTooLarge => "Content Too Large"
  | uriTooLong => "URI Too Long"
  | unsupportedMediaType => "Unsupported Media Type"
  | unprocessableContent => "Unprocessable Content"
  | tooManyRequests => "Too Many Requests"
  | internalServerError => "Internal Server Error"
  | notImplemented => "Not Implemented"
  | badGateway => "Bad Gateway"
  | serviceUnavailable => "Service Unavailable"
  | gatewayTimeout => "Gateway Timeout"
  | httpVersionNotSupported => "HTTP Version Not Supported"

def ofCode? (code : Nat) : Option Status :=
  all.find? (·.code == code)

def isClientError (status : Status) : Bool :=
  400 ≤ status.code && status.code < 500

def isServerError (status : Status) : Bool :=
  500 ≤ status.code && status.code < 600

def isError (status : Status) : Bool :=
  status.isClientError || status.isServerError

theorem ofCode?_code (status : Status) : ofCode? status.code = some status := by
  cases status <;> decide

end Status

end HttpService
