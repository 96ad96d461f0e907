import HttpService.Network.Address
import HttpService.Pipeline.Guard
import HttpService.Wire.RequestReader

/-!
Contract: how a service is configured.

Owns: the settings and their defaults.
-/

namespace HttpService

/-- Turns a fault of the application into an HTTP error, or leaves it to the service. -/
abbrev FaultMapper (World : Type) := Fault World → Action World (Option (HttpError World))

/-- The header that carries the identifier of a request unless configured otherwise. -/
def defaultIdHeader : String := "X-Request-Id"

/-- The settings of a service. Times are in milliseconds. -/
structure Config (World : Type) where
  address : Network.SocketAddress
  maxConnections : Nat
  maxBody : Nat
  readTimeout : Nat
  /-- The time to answer a request, and again to send the response. -/
  writeTimeout : Nat
  /-- What stands in front of every route. -/
  namespacePath : String
  rewritePath : Option String
  /-- Allowed hosts; any host if there are none. -/
  allowedHosts : List String
  /-- Further headers that may appear only once. -/
  singletonHeaders : List String
  allowTrace : Bool
  /-- Refuse responses of a type that the client does not accept. -/
  strictAcceptance : Bool
  idSource : Option (Guard.IdSource World)
  idHeader : String
  /-- Report the bodies of failed requests. -/
  debug : Bool
  mapper : Option (FaultMapper World)

/-- The settings of a service that is told nothing. -/
def Config.default {World : Type} : Config World where
  address := ⟨.v4 [127, 0, 0, 1], 0, 8080⟩
  maxConnections := 1024
  maxBody := Wire.defaultMaxBody
  readTimeout := 10000
  writeTimeout := 10000
  namespacePath := ""
  rewritePath := none
  allowedHosts := []
  singletonHeaders := []
  allowTrace := false
  strictAcceptance := false
  idSource := none
  idHeader := defaultIdHeader
  debug := false
  mapper := none

end HttpService
