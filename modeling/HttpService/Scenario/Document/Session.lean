import HttpService.Scenario.Document.Script
import HttpService.Scenario.Loopback

/-!
Contract: sessions described as JSON values.

Owns: the descriptions of a configuration, of the files that exist, of what is
registered, and of the steps and clients of a session.

Does not own: what the steps lead to.
-/

namespace HttpService.Scenario.Document

open Json

def address : Decoder Network.SocketAddress :=
  fun value => (Decode.text value).bind Network.SocketAddress.parse?

/-- The address that a described service takes unless told otherwise: any free port of
this machine. -/
def freeAddress : Network.SocketAddress := ⟨.v4 [127, 0, 0, 1], 0, 0⟩

/-- A configuration; what is left out has its default. -/
def config : Decoder (Config Journal) := fun value => do
  let default : Config Journal := .default
  let count := fun (key : String) => value.withDefault? key Decode.natural
  let flag := fun (key : String) => value.withDefault? key Decode.boolean
  let mapper ← value.optional? "mapper" (Decode.each mapperRule)
  some
    { address := ← value.withDefault? "addr" address freeAddress
      maxConnections := ← count "max_connections" default.maxConnections
      maxBody := ← count "max_request_size" default.maxBody
      readTimeout := ← count "read_timeout_ms" default.readTimeout
      writeTimeout := ← count "write_timeout_ms" default.writeTimeout
      namespacePath := ← value.withDefault? "namespace" Decode.text default.namespacePath
      rewritePath := ← value.optional? "rewrite_path" Decode.text
      allowedHosts := ← value.listed? "allowed_hosts" Decode.text
      singletonHeaders := ← value.listed? "singletons" Decode.text
      allowTrace := ← flag "trace" default.allowTrace
      strictAcceptance := ← flag "strict" default.strictAcceptance
      idSource := ← value.optional? "request_id" idSource
      idHeader := ← value.withDefault? "request_id_header" Decode.text default.idHeader
      debug := ← flag "debug" default.debug
      mapper := mapper.map mapperOf }

/-- A file with its content, or a directory. -/
def file : Decoder (String × FileNode)
  | .array [name, .object [("dir", _)]] => (Decode.text name).map (·, .directory)
  | .array [name, content] =>
      match Decode.text name, Decode.octets content with
      | some name, some content => some (name, .file content)
      | _, _ => none
  | _ => none

def files (value : Value) : Option Files :=
  (value.listed? "files" file).map Files.ofList

def route : Decoder (String × Endpoint Journal)
  | .array [pattern, handlers] =>
      match Decode.text pattern, endpoint handlers with
      | some pattern, some endpoint => some (pattern, endpoint)
      | _, _ => none
  | _ => none

def registrand : Decoder Registrand := fun value =>
  match value.given? "route", value.given? "routes_under", value.given? "middleware" with
  | some pattern, _, _ => do
      let endpoint ← value.withDefault? "handlers" endpoint .empty
      (Decode.text pattern).map (.route · endpoint)
  | none, some base, _ => do
      let routes ← value.listed? "routes" route
      (Decode.text base).map (.routesUnder · routes)
  | none, none, some description => (script description).map .middleware
  | none, none, none => do
      let script ← value.withDefault? "actions" script []
      (value.required? "responder" status).map (.responder · script)

/-- What a connection brings, item by item. -/
def arrivals : Decoder (List Arrival)
  | .object [("delay_ms", span)] => (Decode.natural span).map ([.delay ·])
  | .object [("stall", _)] => some [.stall]
  | .object [("fail", kind)] =>
      (Decode.text kind).map fun kind => [.failure ⟨transferKind kind, "read failed"⟩]
  | value => (Decode.octets value).map Arrival.ofBytes

/-- How a connection takes what is written. -/
def sink : Decoder Sink
  | .null => some .accepts
  | .string "ok" => some .accepts
  | .string "stall" => some .stalls
  | .string "zero" => some .acceptsNothing
  | .string "fail" => some (.fails ⟨.other, "write failed"⟩)
  | .string "flush_stall" => some .flushStalls
  | .string "flush_fail" => some (.flushFails ⟨.other, "flush failed"⟩)
  | .number (.natural count) => some (if count = 0 then .acceptsNothing else .accepts)
  | _ => none

def connection (peer : Option Network.SocketAddress) : Decoder SessionStep := fun value => do
  let arrivals ← value.listed? "read" arrivals
  (sink ((value.member? "write").getD .null)).map (.connection arrivals.flatten · peer)

def sessionStep : Decoder SessionStep := fun value => do
  let peer ← value.optional? "peer" address
  match value.member? "request", value.given? "connection", value.given? "advance_ms" with
  | some raw, _, _ => (Decode.octets raw).map (.request · peer)
  | none, some description, _ => connection peer description
  | none, none, some span => (Decode.natural span).map .advance
  | none, none, none =>
      if (value.given? "start").isSome then some .start
      else if (value.given? "show_config").isSome then some .showConfig
      else (registrand value).map .register

def client : Decoder Client := fun value =>
  if (value.given? "hold").isSome then some .hold
  else
    match value.given? "send" with
    | none => some .listen
    | some bytes => (Decode.octets bytes).map .send

end HttpService.Scenario.Document
