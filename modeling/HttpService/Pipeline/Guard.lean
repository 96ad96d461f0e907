import HttpService.Pipeline.Chain
import HttpService.Text.Word

/-!
Contract: the middleware that every service runs.

Owns:
- headers that may appear only once;
- the required `Host` header, and the hosts that are allowed;
- request identifiers.

Does not own: the order in which they run, and the deadline.
-/

namespace HttpService.Guard

variable {World : Type}

/-- Headers that may appear only once in every request. -/
def singletonHeaders : List String :=
  ["Authorization", "Content-Length", "Content-Type", "Cookie", "Expect", "Host", "Origin",
    "Range", "Referer", "User-Agent"]

/-- The singleton headers with further ones; casing does not make a header new. -/
def singletonsWith (extra : List String) : List String :=
  extra.foldl
    (fun names name =>
      if names.any (fun known => foldCase known == foldCase name) then names else names ++ [name])
    singletonHeaders

/-- An error of the client with a message. -/
def refusal (message : String) : Fault World :=
  .ofHttp ((HttpError.ofStatus .badRequest).withMessage message)

/-- The first of some names that is repeated in a request. -/
def firstRepeatedHeader? (names : List String) (headers : Headers) : Option String :=
  names.find? fun name => headers.single name = .repeated

/-- Refuses requests that repeat one of the headers. -/
def singletons (names : List String) : Middleware World :=
  fun chain response request =>
    match firstRepeatedHeader? names request.headers with
    | some name =>
        .done ⟨.error (refusal ("Header " ++ name ++ " cannot appear more than once")),
          response, request⟩
    | none => chain.proceed response request

/-- Whether a text is one label of a host name. -/
def isLabel (chars : List Char) : Bool :=
  !chars.isEmpty && chars.all fun c => Text.isWord c || c == '-'

/-- Whether an entry of the allowed hosts stands for a host name without port. An entry
that starts with a dot also stands for one label in front of it. -/
def entryAllows (entry host : List Char) : Bool :=
  match entry with
  | '.' :: domain =>
      host == domain ||
        match Text.cut? '.' host with
        | some (label, rest) => isLabel label && rest == domain
        | none => false
  | _ => host == entry

/-- The host in front of a port, if there is a port. -/
def withoutPort? (host : List Char) : Option (List Char) :=
  let back := host.reverse
  let digits := back.takeWhile Text.isDecimal
  match back.drop digits.length with
  | ':' :: front => if digits.isEmpty then none else some front.reverse
  | _ => none

/-- Whether one of the entries stands for a host, with or without a port. -/
def hostAllowed (entries : List String) (host : String) : Bool :=
  entries.any fun entry =>
    entryAllows entry.toList host.toList ||
      match withoutPort? host.toList with
      | some name => entryAllows entry.toList name
      | none => false

/-- The single host of a request, if it is allowed. No entries allow every host. -/
def checkHost (entries : List String) (headers : Headers) : Except (Fault World) String :=
  match headers.single "Host" with
  | .absent => .error (refusal "Host header is required")
  | .repeated => .error (.ofHttp (.ofRequestError (.repeatedHeader "Host")))
  | .value host =>
      if entries = [] ∨ hostAllowed entries host = true then .ok host
      else .error (refusal ("Host " ++ host ++ " is not allowed"))

/-- Requires an allowed host, and records it on the request. -/
def host (entries : List String) : Middleware World :=
  fun chain response request =>
    match checkHost entries request.headers with
    | .error fault => .done ⟨.error fault, response, request⟩
    | .ok host => chain.proceed response { request with host := some host }

abbrev IdSource (World : Type) := Request → Action World String

/-- Gives the request an identifier, and repeats it in a header of the response. -/
def identify (source : IdSource World) (header : String) : Middleware World :=
  fun chain response request =>
    (Job.ofAction (source request)).bind fun id =>
      chain.proceed (response.setHeader header id) { request with id := some id }

end HttpService.Guard
