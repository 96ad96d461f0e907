import HttpService.Scenario.Document.Error
import HttpService.Scenario.Script

/-!
Contract: scripts described as JSON values.

Owns: the descriptions of expressions, conditions and steps, of the handlers of a
route, of identifiers and of mappers.

Does not own: what scripts do.
-/

namespace HttpService.Scenario.Document

open Json

/-- A value looked up in a request. -/
def lookup : Decoder Lookup
  | .object [(kind, operand)] =>
      match kind with
      | "param" => (Decode.text operand).map .param
      | "query" => (Decode.text operand).map .query
      | "header" => (Decode.text operand).map .header
      | "ctx" => (Decode.text operand).map .attached
      | "path" => some .path
      | "raw_path" => some .rawPath
      | "edge_path" => some .edgePath
      | "host" => some .host
      | "id" => some .id
      | "ip" => some .address
      | "ua" => some .userAgent
      | "method" => some .method
      | "body_len" => some .bodyLength
      | _ => none
  | _ => none

/-- A part of an expression that has no parts: something looked up, or a text. -/
def plainPart (value : Value) : Option Part :=
  match lookup value with
  | some lookup => some (.lookup lookup)
  | none => (Decode.text value).map .text

mutual

/-- An expression: a part, or a list of expressions. -/
def expression : Decoder Expression
  | .array parts => expressions parts
  | value => (plainPart value).map ([·])

def expressions : List Value → Option Expression
  | [] => some []
  | value :: rest =>
      match expression value, expressions rest with
      | some parts, some others => some (parts ++ others)
      | _, _ => none

end

def condition : Decoder Condition
  | .object [("has_header", name)] => (Decode.text name).map .hasHeader
  | .object [("method", token)] => (method token).map .method
  | .object [("path", path)] => (Decode.text path).map .path
  | .object [("query", key)] => (Decode.text key).map .query
  | .object [("status", code)] => (Decode.natural code).map .status
  | .object [("not", inner)] => (condition inner).map .not
  | _ => none

/-- A panic by its payload: a fixed text, a text of its own, or no text. -/
def panic : Decoder Panic := fun value => do
  match ← value.required? "payload" Decode.text with
  | "str" => some ⟨some "static panic text"⟩
  | "string" => (value.withDefault? "text" Decode.text "").map fun wording => ⟨some wording⟩
  | _ => some ⟨none⟩

def command (name : String) : Decoder Command := fun value => do
  let text := fun (key : String) => value.required? key Decode.text
  let octets := value.required? "body" Decode.octets
  let evaluated := fun (key : String) => value.required? key expression
  match name with
  | "text" => (evaluated "body").map .text
  | "json" => (value.member? "value").map .json
  | "json_fail" => (text "text").map .jsonFailure
  | "json_echo" => some .jsonEcho
  | "json_raw_echo" => some .jsonRawEcho
  | "text_echo" => some .textEcho
  | "bytes" => some (.bytes (← octets) (← value.required? "type" mediaType))
  | "raw_body" => octets.map .rawBody
  | "status" => (value.required? "code" status).map .status
  | "header" => some (.header (← text "name") (← evaluated "value"))
  | "append" => some (.append (← text "name") (← evaluated "value"))
  | "remove" => (text "name").map .remove
  | "log" => (evaluated "text").map .log
  | "snapshot" => (value.listed? "keys" Decode.text).map .snapshot
  | "response" => some .response
  | "deadline" => some .deadline
  | "panic" => (panic value).map .panic
  | "fail" => (value.required? "error" fault).map .fail
  | "sleep" => (value.required? "ms" Decode.natural).map .sleep
  | "until_deadline" => some .untilDeadline
  | "stop" => some .stop
  | "remaining" => some .remaining
  | "ctx_set" => some (.attach (← text "key") (← evaluated "value"))
  | "ctx_num" => (text "key").map .attachNumber
  | "req_header" => some (.requestHeader (← text "name") (← evaluated "value"))
  | "req_method" => (value.required? "method" method).map .requestMethod
  | "req_body" => octets.map .requestBody
  | _ => none

mutual

/-- A step: a branch, the rest of the chain, or a command. -/
def step (value : Value) : Option Step := do
  match ← value.required? "do" Decode.text with
  | "if" => do
      let asked ← value.required? "cond" condition
      let yes ← branch value "then"
      let no ← branch value "else"
      some (.branch asked yes no)
  | "proceed" => (value.withDefault? "catch" Decode.boolean false).map .proceed
  | name => (command name value).map .command
termination_by (sizeOf value, 1)

/-- The steps of one side of a branch; none if they are left out. -/
def branch (value : Value) (key : String) : Option (List Step) :=
  match _given : value.given? key with
  | none => some []
  | some (.array items) => steps items
  | some _ => none
termination_by (sizeOf value, 0)
decreasing_by
  have := sizeOf_given? _given
  simp only [Value.array.sizeOf_spec] at this
  left
  omega

def steps : List Value → Option (List Step)
  | [] => some []
  | value :: rest =>
      match step value, steps rest with
      | some first, some others => some (first :: others)
      | _, _ => none
termination_by items => (sizeOf items, 0)

end

def script : Decoder Script
  | .array items => steps items
  | _ => none

/-- The handlers of a route: a script for each of some methods. -/
def endpoint : Decoder (Endpoint Journal) := fun value => do
  (← Decode.members value).foldlM
    (fun endpoint (token, description) => do
      let method ← Method.ofToken? token
      let script ← script description
      some (endpoint.withHandler method script.handler))
    .empty

def idSource : Decoder (Guard.IdSource Journal)
  | .object [("counter", lead)] => (Decode.text lead).map countingIds
  | .object [("expr", computed)] => (expression computed).map computedIds
  | .object [("panic", wording)] =>
      (Decode.text wording).map fun wording => panickingIds ⟨some wording⟩
  | _ => none

def faultKind : Decoder FaultKind := fun value => do
  match ← Decode.text value with
  | "any" => some .any
  | "custom" => some .application
  | "io" => some .transfer
  | "parser" => some .request
  | "json" => some .json
  | "deadline" => some .deadline
  | "http" => some .http
  | _ => none

def mapperRule : Decoder MapperRule := fun value => do
  let kind ← value.required? "is" faultKind
  let contains ← value.optional? "contains" Decode.text
  let error ← value.required? "to" httpError
  some ⟨kind, contains, error⟩

end HttpService.Scenario.Document
