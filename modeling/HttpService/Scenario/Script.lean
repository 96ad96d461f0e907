import HttpService.Pipeline.FaultBoundary
import HttpService.Scenario.Journal

/-!
Contract: handlers, middleware and responders described as data.

Owns:
- expressions over a request;
- the commands of a script, and what running a script does;
- scripted identifiers and mappers.

Does not own: the pipeline that runs them.
-/

namespace HttpService.Scenario

/-- A value looked up in a request. -/
inductive Lookup where
  | param (name : String)
  | query (name : String)
  | header (name : String)
  | attached (key : String)
  | path | rawPath | edgePath | host | id | address | userAgent | method | bodyLength
deriving DecidableEq, Repr

def Lookup.value? (request : Request) : Lookup → Option String
  | param name => request.target.param? name
  | query name => request.target.query.first? name
  | header name => request.headers.first? name
  | attached key => request.attachedText? key
  | path => some request.path
  | rawPath => some request.target.rawPath
  | edgePath => some request.target.edgePathText
  | host => request.host
  | id => request.id
  | address => request.clientAddress
  | userAgent => request.userAgent
  | method => some request.method.token
  | bodyLength => some (toString request.body.length)

inductive Part where
  | text (text : String)
  | lookup (lookup : Lookup)
deriving DecidableEq, Repr

/-- An expression: its parts are put together. -/
abbrev Expression := List Part

/-- The text of an expression; a missing value shows as a dash. -/
def evaluate (request : Request) (expression : Expression) : String :=
  String.join (expression.map fun part =>
    match part with
    | .text text => text
    | .lookup lookup => (lookup.value? request).getD "-")

/-- A question about the request and the response so far. -/
inductive Condition where
  | hasHeader (name : String)
  | method (method : Method)
  | path (path : String)
  | query (key : String)
  | status (code : Nat)
  | not (condition : Condition)
deriving DecidableEq, Repr

def Condition.holds (response : Response) (request : Request) : Condition → Bool
  | .hasHeader name => request.headers.contains name
  | .method expected => request.method = expected
  | .path expected => request.path = expected
  | .query key => request.target.query.contains key
  | .status code => response.status.code = code
  | .not condition => !condition.holds response request

inductive Command where
  | text (body : Expression)
  | json (value : Json.Value)
  /-- Writing JSON fails with a text. -/
  | jsonFailure (text : String)
  /-- The JSON of the request, if it is declared as such. -/
  | jsonEcho
  /-- The JSON of the request, however it is declared. -/
  | jsonRawEcho
  | textEcho
  | bytes (body : Bytes) (type : MediaType)
  /-- Sets the body and leaves the headers. -/
  | rawBody (body : Bytes)
  | status (status : Status)
  | header (name : String) (value : Expression)
  | append (name : String) (value : Expression)
  | remove (name : String)
  | log (text : Expression)
  | snapshot (keys : List String)
  | response
  | deadline
  | panic (payload : Panic)
  | fail (fault : Fault)
  | sleep (span : Nat)
  | untilDeadline
  | stop
  | attach (key : String) (value : Expression)
  | attachNumber (key : String)
  | requestHeader (name : String) (value : Expression)
  | requestMethod (method : Method)
  | requestBody (body : Bytes)
  /-- Notes how many middleware the rest of the chain has. -/
  | remaining

inductive Step where
  | command (command : Command)
  | branch (condition : Condition) (yes no : List Step)
  /-- Runs the rest of the chain; its error is returned unless it is caught. -/
  | proceed (catches : Bool)

/-- The state of a running script: a verdict ends it. -/
structure State where
  verdict : Option (Verdict Journal)
  response : Response
  request : Request

namespace State

def reply (state : State) (response : Response) : State :=
  { state with response := response }

def ask (state : State) (request : Request) : State :=
  { state with request := request }

def fail (state : State) (fault : Fault) : State :=
  { state with verdict := some (.error fault) }

/-- Writes an answer from a view of the request, or ends with its error. -/
def respondWith {α : Type} (state : State) (view : Except Fault α) (write : α → Response) :
    State :=
  match view with
  | .ok value => state.reply (write value)
  | .error fault => state.fail fault

end State

/-- A job of a script. -/
abbrev Play := Job Journal

def write (entry : JournalEntry) : Play Unit :=
  .modify (·.write entry)

/-- Milliseconds as seconds, rounded to the nearest. -/
def seconds (span : Nat) : Nat :=
  (span + 500) / 1000

def Command.run (remaining : Nat) (state : State) : Command → Play State
  | .text body => .done (state.reply (state.response.setText (evaluate state.request body)))
  | .json value => .done (state.reply (state.response.setJson value))
  | .jsonFailure wording => .done (state.fail (.service (.json (.custom wording))))
  | .jsonEcho =>
      .done (state.respondWith (state.request.json.mapError .request) state.response.setJson)
  | .jsonRawEcho =>
      .done (state.respondWith ((Json.parse state.request.body).mapError .json)
        state.response.setJson)
  | .textEcho =>
      .done (state.respondWith (state.request.text.mapError .request) state.response.setText)
  | .bytes body type => .done (state.reply (state.response.setTyped type body))
  | .rawBody body => .done (state.reply { state.response with body := body })
  | .status code => .done (state.reply { state.response with status := code })
  | .header name value =>
      .done (state.reply (state.response.setHeader name (evaluate state.request value)))
  | .append name value =>
      .done (state.reply (state.response.appendHeader name (evaluate state.request value)))
  | .remove name => .done (state.reply (state.response.removeHeader name))
  | .log entry => (write (.text (evaluate state.request entry))).bind fun _ => .done state
  | .snapshot keys => (write (.snapshot state.request keys)).bind fun _ => .done state
  | .response => (write (.response state.response)).bind fun _ => .done state
  | .deadline =>
      Job.now.bind fun now =>
        let deadline := state.request.deadline
        (write (.deadline (deadline.isExpired now) ((deadline.remaining? now).map seconds))).bind
          fun _ => .done state
  | .panic payload => .panic payload
  | .fail fault => .done (state.fail fault)
  | .sleep span => (Job.sleepFor span).bind fun _ => .done state
  | .untilDeadline =>
      match state.request.deadline.moment with
      | some moment => (Job.sleepUntil moment).bind fun _ => .done state
      | none => .done state
  | .stop => .done { state with verdict := some (.ok ()) }
  | .attach key value =>
      .done (state.ask (state.request.attach key (.text (evaluate state.request value))))
  | .attachNumber key => .done (state.ask (state.request.attach key (.number 7)))
  | .requestHeader name value =>
      .done (state.ask
        { state.request with
          headers := state.request.headers.set name (evaluate state.request value) })
  | .requestMethod method => .done (state.ask { state.request with method := method })
  | .requestBody body => .done (state.ask { state.request with body := body })
  | .remaining => (write (.remaining remaining)).bind fun _ => .done state

def runRest (chain : Chain Journal) (catches : Bool) (state : State) : Play State :=
  (chain.proceed state.response state.request).bind fun outcome =>
    let after : State := { state with response := outcome.response, request := outcome.request }
    match outcome.verdict with
    | .ok () => .done after
    | .error fault =>
        if catches then
          (Job.ofAction fault.message).bind fun wording =>
            (write (.caught wording)).bind fun _ => .done after
        else .done (after.fail fault)

mutual

def Step.run (chain : Chain Journal) (state : State) : Step → Play State
  | .command command => command.run chain.remaining state
  | .branch condition yes no =>
      if condition.holds state.response state.request then runSteps chain state yes
      else runSteps chain state no
  | .proceed catches => runRest chain catches state

/-- Runs steps in turn until one ends the script. -/
def runSteps (chain : Chain Journal) (state : State) : List Step → Play State
  | [] => .done state
  | step :: rest =>
      (step.run chain state).bind fun state =>
        match state.verdict with
        | some _ => .done state
        | none => runSteps chain state rest

end

abbrev Script := List Step

/-- What a finished script leaves: without a verdict it has succeeded. -/
def State.outcome (state : State) : Outcome Journal :=
  ⟨state.verdict.getD (.ok ()), state.response, state.request⟩

def Script.middleware (script : Script) : Middleware Journal :=
  fun chain response request =>
    (runSteps chain ⟨none, response, request⟩ script).bind fun state => .done state.outcome

/-- The rest of a chain for scripts that have none. -/
def noChain : Chain Journal :=
  ⟨0, fun response request => .done ⟨.ok (), response, request⟩⟩

def Script.handler (script : Script) : Handler Journal :=
  fun response request =>
    (runSteps noChain ⟨none, response, request⟩ script).bind fun state =>
      .done (state.outcome.verdict, state.response)

/-- Runs a script as a responder: at one moment, past the errors of its steps. -/
def respondSteps (response : Response) (request : Request) : Script → Action Journal Response
  | [] => .pure response
  | step :: rest => fun now journal =>
      match (step.run noChain ⟨none, response, request⟩).run now 0 journal with
      | (.panicked payload, journal) => (.error payload, journal)
      | (.asleep .., journal) => respondSteps response request rest now journal
      | (.interrupted _, journal) => respondSteps response request rest now journal
      | (.finished state, journal) =>
          match state.verdict with
          | some (.error fault) =>
              match fault.message now journal with
              | (.error payload, journal) => (.error payload, journal)
              | (.ok wording, journal) =>
                  respondSteps state.response request rest now
                    (journal.write (.responderError wording))
          | _ => respondSteps state.response request rest now journal

def Script.responder (script : Script) : Responder Journal :=
  fun response request => respondSteps response request script

/-- Identifiers that count up behind a fixed beginning. -/
def countingIds (lead : String) : Guard.IdSource Journal :=
  fun _ _ journal =>
    (.ok (lead ++ toString (journal.issued + 1)), { journal with issued := journal.issued + 1 })

def computedIds (expression : Expression) : Guard.IdSource Journal :=
  fun request => .pure (evaluate request expression)

def panickingIds (payload : Panic) : Guard.IdSource Journal :=
  fun _ => .panic payload

/-- The kinds of faults that a mapper tells apart. -/
inductive FaultKind where
  | any | application | transfer | request | json | deadline | http
deriving DecidableEq, Repr

/-- Whether a fault is of a kind. -/
def FaultKind.fits : FaultKind → Fault → Bool
  | any, _ => true
  | application, .application .. => true
  | transfer, .transfer .. => true
  | request, .request _ => true
  | json, .json _ => true
  | deadline, .deadlineExceeded => true
  | http, .http .. => true
  | _, _ => false

/-- A rule of a mapper: faults of a kind whose text contains something become an error. -/
structure MapperRule where
  kind : FaultKind
  contains : Option String
  error : HttpError

/-- Whether a text occurs in another one. -/
def occursIn (part whole : List Char) : Bool :=
  match whole with
  | [] => part.isEmpty
  | c :: rest => part.isPrefixOf (c :: rest) || occursIn part rest

/-- Whether a rule applies to a fault with a wording. -/
def MapperRule.applies (rule : MapperRule) (fault : Fault) (wording : String) : Bool :=
  rule.kind.fits fault &&
    match rule.contains with
    | none => true
    | some part => occursIn part.toList wording.toList

/-- The mapper that takes the first rule that applies. -/
def mapperOf (rules : List MapperRule) : FaultMapper Journal :=
  fun fault => (HttpService.Fault.message fault).map fun wording =>
    (rules.find? (·.applies fault wording)).map (·.error)

end HttpService.Scenario
