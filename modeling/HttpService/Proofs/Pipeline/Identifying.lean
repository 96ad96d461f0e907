import Mathlib.Tactic.Common
import HttpService.Proofs.Concurrency.Guarantee
import HttpService.Proofs.Pipeline.Guarded
import HttpService.Proofs.Pipeline.Reply
import HttpService.Proofs.Pipeline.Upkeep
import HttpService.Proofs.Responses.Writing

/-!
Contract: identifiers in the answers to requests.

Owns:
- services in which nothing but the source of identifiers writes under a name, and what their
  chains, errors and responders leave of it;
- **the answer to a request whose chain comes to an outcome carries the identifier** that the
  source has given, whether the outcome is a success or a fault; after a panic, and too late,
  the answer carries what it would carry without a source.

Does not own: requests that the guards refuse.
-/

namespace HttpService.Pipeline

variable {World : Type}

/-! ## Names that nothing else is written under -/

/-- The error that a fault stands for has no field of a name. -/
def Spares (pipeline : Pipeline World) (name : String) (fault : Fault World) : Prop :=
  ∀ now world answer, (fault.resolve pipeline.config.mapper now world).1 = .ok answer →
    answer.headers.Spares name

/-- A verdict and a response that have left what a name held, with no error that would write
under it. -/
def Untouched (pipeline : Pipeline World) (name : String) (given : Response)
    (verdict : Verdict World) (left : Response) : Prop :=
  left.headers.all? name = given.headers.all? name ∧
    ∀ fault, verdict = .error fault → pipeline.Spares name fault

/-- The outcome of a chain leaves what a name held. -/
def keepsField (pipeline : Pipeline World) (name : String) (given : Response) (_ : Request)
    (outcome : Outcome World) : Prop :=
  pipeline.Untouched name given outcome.verdict outcome.response

/-- Neither the application, with its handlers for a route, nor the service writes under a name. -/
structure Unwritten (pipeline : Pipeline World) (own : List (Middleware World))
    (endpoint : Option (Endpoint World)) (name : String) : Prop where
  unreserved : Unreserved name
  middleware : ∀ next ∈ own, Middleware.Keeps (pipeline.keepsField name) next
  handlers : ∀ found, endpoint = some found →
    ∀ method handler, found.handler? method = some handler → ∀ response request,
      (handler response request).Ensures fun ended =>
        pipeline.Untouched name response ended.1 ended.2
  deadline : pipeline.Spares name .deadlineExceeded
  responders : ∀ entry ∈ pipeline.responders.entries,
    ∀ response request now world responded,
      (entry.2 response request now world).1 = .ok responded →
        responded.headers.all? name = response.headers.all? name

section

variable {pipeline : Pipeline World} {own : List (Middleware World)}
  {endpoint : Option (Endpoint World)} {name : String}

theorem spares_of_headers {error : HttpError World} (spares : error.headers.Spares name) :
    pipeline.Spares name (.ofHttp error) := by
  intro now world answer resolved
  have same : (Except.ok error : Except Panic (HttpError World)) = .ok answer := resolved
  cases same
  exact spares

theorem Untouched.of_ok {given left : Response}
    (same : left.headers.all? name = given.headers.all? name) :
    pipeline.Untouched name given (.ok ()) left :=
  ⟨same, nofun⟩

theorem Untouched.of_error {given : Response} {error : HttpError World}
    (spares : error.headers.Spares name) :
    pipeline.Untouched name given (.error (.ofHttp error)) given := by
  refine ⟨rfl, ?_⟩
  intro fault same
  cases same
  exact spares_of_headers spares

theorem untouched_checkAcceptance (terminal : Terminal World) {given left : Response}
    (same : left.headers.all? name = given.headers.all? name) (request : Request) :
    pipeline.Untouched name given (terminal.checkAcceptance left request) left := by
  unfold Terminal.checkAcceptance
  split
  · split
    · exact .of_ok same
    · split
      · exact .of_ok same
      · refine ⟨same, ?_⟩
        intro fault refused
        cases refused
        exact spares_of_headers (Headers.spares_empty name)
  · exact .of_ok same

/-- The end of a chain leaves what such a name held. -/
theorem Unwritten.dispatch (unwritten : pipeline.Unwritten own endpoint name)
    (response : Response) (request : Request) :
    ((pipeline.terminal endpoint).dispatch response request).Ensures
      (pipeline.keepsField name response request) := by
  have unreserved := unwritten.unreserved
  have listed : ∀ allow,
      pipeline.Untouched name response (.ok ()) (Terminal.answerAllow response allow) :=
    fun allow => .of_ok (Headers.all?_set_of_ne unreserved.allow allow)
  unfold Terminal.dispatch
  split
  · exact listed _
  · split
    · exact .of_error (Headers.spares_empty name)
    · rename_i found served
      split
      · exact listed _
      · split
        · exact .of_ok (Response.all?_setTyped unreserved _ _ _)
        · unfold Terminal.runHandler
          split
          · have allow : sanitize (sanitize "Allow") = sanitize "Allow" := by decide
            refine .of_error (Headers.spares_set_empty ?_ _)
            rw [allow]
            exact unreserved.allow
          · rename_i handler known
            have keeps := unwritten.handlers found served _ handler known response request
            refine keeps.bind ?_
            rintro ⟨verdict, left⟩ ⟨same, spares⟩
            cases verdict with
            | error fault => exact ⟨same, spares⟩
            | ok _ => exact untouched_checkAcceptance _ same request

/-- Behind the guards a chain leaves what such a name held. -/
theorem Unwritten.inner (unwritten : pipeline.Unwritten own endpoint name) :
    (pipeline.inner own endpoint).Keeps (pipeline.keepsField name) :=
  Chain.keeps_ofList unwritten.dispatch unwritten.middleware

theorem Unwritten.reworked (unwritten : pipeline.Unwritten own endpoint name)
    {response responded : Response} {left : Request} {now : Nat} {world : World}
    (reworked : (pipeline.reworked response left now world).1 = .ok responded) :
    responded.headers.all? name = response.headers.all? name := by
  unfold Pipeline.reworked at reworked
  split at reworked
  · unfold Responders.respond at reworked
    cases found : pipeline.responders.find? response.status with
    | none =>
        rw [found] at reworked
        cases reworked
        rfl
    | some responder =>
        rw [found] at reworked
        exact unwritten.responders _ (mem_entries_of_find? found) response left now world responded
          reworked
  · cases reworked
    rfl

/-- Neither the responder nor HEAD changes what an answer holds under such a name. -/
theorem Unwritten.concluded (unwritten : pipeline.Unwritten own endpoint name)
    {error : Option (HttpError World)} {response got : Response} {left : Request} {now : Nat}
    {world : World} (concludes : (pipeline.concluded (error, response, left) now world).1 = .ok got) :
    got.headers.all? name = (written error response).headers.all? name := by
  rw [concluded_eq] at concludes
  obtain ⟨_, later, _, delivers⟩ := Action.exists_of_bind_ok concludes
  obtain ⟨responded, reworked, same⟩ := Action.exists_of_map_ok delivers
  rw [← unwritten.reworked reworked, ← same]
  unfold withoutHeadBody
  split
  · exact Response.all?_stripBody unwritten.unreserved responded
  · rfl

end

/-! ## The identifier of a request -/

section

variable {pipeline : Pipeline World} {own : List (Middleware World)}
  {source : Guard.IdSource World} {raw : Bytes} {request routed : Request} {host : String}
  {peer : Option Network.SocketAddress} {engine : Engine World}
  {endpoint : Option (Endpoint World)}

/-- Behind an identifier every outcome carries it. -/
theorem Unwritten.identified
    (unwritten : pipeline.Unwritten own endpoint (sanitize pipeline.config.idHeader)) (id : String) :
    (pipeline.identified own endpoint routed host id).Ensures fun outcome =>
      outcome.response.headers.all? (sanitize pipeline.config.idHeader) = some [sanitize id] ∧
        ∀ fault, outcome.verdict = .error fault →
          pipeline.Spares (sanitize pipeline.config.idHeader) fault := by
  refine (unwritten.inner _ _).mono ?_
  rintro outcome ⟨same, spares⟩
  refine ⟨same.trans ?_, spares⟩
  exact Headers.all?_set_self _ _ id

/-- What is written on the response of an outcome does not touch the name. -/
theorem Unwritten.written_outcome {name : String} (unwritten : pipeline.Unwritten own endpoint name)
    {given response : Response} {left : Request} {outcome : Outcome World}
    {error : Option (HttpError World)} {now : Nat} {world : World}
    (spares : ∀ fault, outcome.verdict = .error fault → pipeline.Spares name fault)
    (judged : (pipeline.judged given routed (some (.ok outcome)) now world).1 =
      .ok (error, response, left)) :
    (written error response).headers.all? name = outcome.response.headers.all? name := by
  obtain ⟨verdict, built, kept⟩ := outcome
  cases verdict with
  | ok _ =>
      cases judged
      rfl
  | error fault =>
      obtain ⟨answer, resolved, same⟩ := Action.exists_of_map_ok judged
      cases same
      exact Response.all?_writeError unwritten.unreserved (spares fault rfl _ _ answer resolved) _

/-- After a panic, and too late, what is written on the given response does not touch the name. -/
theorem Unwritten.written_given {name : String} (unwritten : pipeline.Unwritten own endpoint name)
    {given response : Response} {left : Request} {came : Option (Except Panic (Outcome World))}
    {error : Option (HttpError World)} {now : Nat} {world : World}
    (without : ∀ outcome, came ≠ some (.ok outcome))
    (judged : (pipeline.judged given routed came now world).1 = .ok (error, response, left)) :
    (written error response).headers.all? name = given.headers.all? name := by
  cases came with
  | none =>
      obtain ⟨answer, resolved, same⟩ := Action.exists_of_map_ok judged
      cases same
      exact Response.all?_writeError unwritten.unreserved (unwritten.deadline _ _ answer resolved)
        given
  | some ended =>
      cases ended with
      | ok outcome => exact absurd rfl (without outcome)
      | error payload =>
          cases judged
          exact Response.all?_writeError unwritten.unreserved (Headers.spares_empty name) given

/-- **The identifier in the answer.** In a service with a source of identifiers, in which nothing
else writes the header for them, a request passes the checks and is led to its chain. If the chain
comes to an outcome by the deadline, be it a success or any fault, then the source has given an
identifier, the chain has gone on with it to that outcome, and if the identifier can be stored
every response carries it. If the chain panics or is late, every response holds in that header
what it would hold without a source. There is a response if neither the mapper nor a responder
panics, the request has a deadline, and its error can be put into words. -/
theorem identifier_answered (stack : pipeline.middleware = guards pipeline.config ++ own)
    (configured : pipeline.config.idSource = some source)
    (unwritten : pipeline.Unwritten own endpoint (sanitize pipeline.config.idHeader))
    (fresh : engine.Fresh)
    (parsed : Wire.readRequest raw pipeline.config.maxBody = .ok request)
    (passes : Passes pipeline.config request.headers host)
    (directed : pipeline.directed (pipeline.opened request peer engine.clock) =
      .ok (endpoint, routed))
    {came : Option (Except Panic (Outcome World))} {after : Engine World}
    (ran : pipeline.chainRun (pipeline.opened request peer engine.clock) endpoint routed engine =
      (came, after)) :
    (∀ outcome, came = some (.ok outcome) →
      ∃ world id now, (source (asked routed host) engine.clock world).1 = .ok id ∧
        During engine.clock (engine.clock + pipeline.config.writeTimeout) now ∧
        (pipeline.identified own endpoint routed host id).Reaches engine.clock (.done outcome) now ∧
        ((∀ c ∈ id.toList, isFieldChar c = true) →
          ∀ got, (pipeline.handle raw peer engine).1 = .ok got →
            got.headers.all? (sanitize pipeline.config.idHeader) = some [id])) ∧
      ((∀ outcome, came ≠ some (.ok outcome)) →
        ∀ got, (pipeline.handle raw peer engine).1 = .ok got →
          got.headers.all? (sanitize pipeline.config.idHeader) =
            (Response.forMethod request.method).headers.all? (sanitize pipeline.config.idHeader)) ∧
      (pipeline.Calm → pipeline.HasDeadline engine.clock →
        pipeline.Wordable (pipeline.opened request peer engine.clock) engine →
          ∃ got, (pipeline.handle raw peer engine).1 = .ok got) := by
  refine ⟨?_, ?_, fun calm timely wordable => calm.handle timely wordable parsed⟩
  · rintro outcome rfl
    have comes := comes_chainRun fresh pipeline (pipeline.opened request peer engine.clock) endpoint
      routed
    rw [ran] at comes
    have passes : Passes pipeline.config routed.headers host := by
      obtain ⟨target, rfl, _⟩ := retargeted_of_directed directed
      exact passes
    rw [chainJob_identified stack configured passes] at comes
    cases comes with
    | ended during reached =>
        obtain ⟨world, id, given, further⟩ := reached.behind_action
        refine ⟨world, id, _, given, during, further, ?_⟩
        intro storable got answered
        obtain ⟨carried, spares⟩ :=
          (unwritten.identified id).of_reaches further
        obtain ⟨error, response, left, later, judged, concludes⟩ :=
          exists_judged parsed directed ran answered
        rw [unwritten.concluded concludes, unwritten.written_outcome spares judged, carried,
          Headers.sanitize_eq_self storable]
  · intro without got answered
    obtain ⟨error, response, left, later, judged, concludes⟩ :=
      exists_judged parsed directed ran answered
    rw [unwritten.concluded concludes, unwritten.written_given without judged]

end

/-! ## Services with one identifier -/

/-- Settings that give every request the same identifier. -/
def namingConfig (header : String) : Config Unit :=
  { (Config.default : Config Unit) with idSource := some fun _ => .pure "r1", idHeader := header }

/-- A service without routes, with these settings and some middleware. -/
def naming (header : String) (own : List (Middleware Unit)) : Pipeline Unit :=
  ⟨namingConfig header, .empty, .empty, guards (namingConfig header) ++ own, .empty⟩

theorem unwritten_naming {header name : String} {own : List (Middleware Unit)}
    (unreserved : Unreserved name)
    (keeps : ∀ next ∈ own, Middleware.Keeps ((naming header own).keepsField name) next) :
    (naming header own).Unwritten own none name where
  unreserved := unreserved
  middleware := keeps
  handlers := nofun
  deadline := by
    intro now world answer resolved
    cases resolved
    exact Headers.spares_empty name
  responders := nofun

/-- The octets of a request for such a service. -/
def namedBytes : Bytes :=
  Utf8.encode "GET /a HTTP/1.1\r\nHost: x\r\n\r\n"

theorem parsed_namedBytes (header : String) (own : List (Middleware Unit)) :
    Wire.readRequest namedBytes (naming header own).config.maxBody = .ok lostRequest :=
  parsed_lost

/-- The request as the chain of such a service is given it. -/
def namedRequest : Request :=
  (naming defaultIdHeader []).opened lostRequest none 0

theorem directed_naming (header : String) (own : List (Middleware Unit)) :
    (naming header own).directed ((naming header own).opened lostRequest none 0) =
      .ok (none, namedRequest) :=
  rfl

theorem passes_naming (header : String) :
    Passes (namingConfig header) lostRequest.headers "x" := by
  have single : Guard.firstRepeatedHeader? (Guard.singletonsWith []) lostRequest.headers = none := by
    decide +kernel
  exact ⟨single, rfl⟩

/-- The chain of such a service comes to what it comes to behind the identifier. -/
theorem comes_naming (header : String) (own : List (Middleware Unit)) :
    ((naming header own).identified own none namedRequest "x" "r1").Comes 0 10000
      ((naming header own).chainRun ((naming header own).opened lostRequest none 0) none namedRequest
        (.start ())).1 := by
  have comes := comes_chainRun (Machine.fresh_start ()) (naming header own)
    ((naming header own).opened lostRequest none 0) none namedRequest
  have deadline : (Machine.start () : Engine Unit).clock + (naming header own).config.writeTimeout =
      10000 := Nat.zero_add 10000
  rw [deadline, chainJob_identified rfl rfl (passes_naming header)] at comes
  exact comes.behind_pure (by decide)

theorem unreserved_idHeader : Unreserved (sanitize defaultIdHeader) :=
  ⟨by decide, by decide, by decide⟩

/-- What the chain of such a service comes to without further middleware. -/
def unroutedOutcome (header : String) : Outcome Unit :=
  ⟨.error (.ofHttp (unroutedError Unit)), (Response.forMethod .get).setHeader header "r1",
    { asked namedRequest "x" with id := some "r1" }⟩

theorem came_naming (header : String) :
    ((naming header []).chainRun ((naming header []).opened lostRequest none 0) none namedRequest
      (.start ())).1 = some (.ok (unroutedOutcome header)) := by
  have job : (naming header []).identified [] none namedRequest "x" "r1" =
      .ofOutcome (.ok (unroutedOutcome header)) := rfl
  have comes := comes_naming header []
  rw [job] at comes
  exact comes.of_outcome (by decide)

/-- The answer of such a service in terms of what its chain is found to have come to. -/
theorem handle_naming {header : String} {own : List (Middleware Unit)}
    {came : Option (Except Panic (Outcome Unit))}
    (found : ((naming header own).chainRun ((naming header own).opened lostRequest none 0) none
      namedRequest (.start ())).1 = came) :
    ∃ now world, ((naming header own).handle namedBytes none (.start ())).1 =
      (((naming header own).judged (.forMethod .get) namedRequest came).bind
        (naming header own).concluded now world).1 := by
  have timely : (naming header own).HasDeadline 0 := by
    show 0 + 10000 ≤ Deadline.lastMoment
    decide
  exact handle_of_came timely (parsed_namedBytes header own)
    (directed_naming header own) found

theorem identifier_answered_unrouted :
    (naming defaultIdHeader []).Unwritten [] none (sanitize defaultIdHeader) ∧
      Wire.readRequest namedBytes (naming defaultIdHeader []).config.maxBody = .ok lostRequest ∧
      Passes (naming defaultIdHeader []).config lostRequest.headers "x" ∧
      ∃ got, ((naming defaultIdHeader []).handle namedBytes none (.start ())).1 = .ok got ∧
        got.headers.all? "X-Request-Id" = some ["r1"] := by
  have unwritten : (naming defaultIdHeader []).Unwritten [] none (sanitize defaultIdHeader) :=
    unwritten_naming unreserved_idHeader nofun
  have configured : (naming defaultIdHeader []).config.idSource = some fun _ => .pure "r1" := rfl
  have parsed := parsed_namedBytes defaultIdHeader []
  have passes := passes_naming defaultIdHeader
  refine ⟨unwritten, parsed, passes, ?_⟩
  obtain ⟨inTime, _, _⟩ := identifier_answered rfl configured unwritten
    (Machine.fresh_start ()) parsed passes (directed_naming defaultIdHeader [])
    (Prod.ext (came_naming defaultIdHeader) rfl)
  obtain ⟨_, _, sent⟩ := handle_naming (came_naming defaultIdHeader)
  obtain ⟨_, id, _, given, _, _, carried⟩ := inTime _ rfl
  cases given
  have name : sanitize defaultIdHeader = "X-Request-Id" := by decide
  have storable : "r1".toList.all isFieldChar = true := by decide
  refine ⟨_, sent, ?_⟩
  rw [← name]
  exact carried (List.all_eq_true.mp storable) _ sent

/-- A middleware that rests for longer than there is time. -/
def slow : Middleware Unit :=
  fun chain response request => .sleep 20000 (chain.proceed response request)

/-- After a panic and after the deadline the identifier is lost, although nothing else writes its
header, and a header that errors bring along does not hold it. -/
theorem identifier_lost :
    ((naming defaultIdHeader [lost]).Unwritten [lost] none (sanitize defaultIdHeader) ∧
      ∃ got, ((naming defaultIdHeader [lost]).handle namedBytes none (.start ())).1 = .ok got ∧
        got.headers.all? "X-Request-Id" = none) ∧
      ((naming defaultIdHeader [slow]).Unwritten [slow] none (sanitize defaultIdHeader) ∧
        ∃ got, ((naming defaultIdHeader [slow]).handle namedBytes none (.start ())).1 = .ok got ∧
          got.headers.all? "X-Request-Id" = none) ∧
      ∃ got, ((naming "Content-Type" []).handle namedBytes none (.start ())).1 = .ok got ∧
        got.headers.all? "Content-Type" = some ["text/plain; charset=utf-8"] := by
  refine ⟨⟨?_, ?_⟩, ⟨?_, ?_⟩, ?_⟩
  · refine unwritten_naming unreserved_idHeader ?_
    intro next member
    rw [List.mem_singleton.mp member]
    exact fun _ _ _ _ => trivial
  · have panics : (naming defaultIdHeader [lost]).identified [lost] none namedRequest "x" "r1" =
        .ofOutcome (.error ⟨some "lost"⟩) := rfl
    have comes := comes_naming defaultIdHeader [lost]
    rw [panics] at comes
    obtain ⟨now, world, answered⟩ := handle_naming (comes.of_outcome (by decide))
    exact ⟨_, answered, by decide +kernel⟩
  · refine unwritten_naming unreserved_idHeader ?_
    intro next member
    rw [List.mem_singleton.mp member]
    exact fun _ keeps response request => keeps response request
  · have rests : ((naming defaultIdHeader [slow]).identified [slow] none namedRequest "x"
        "r1").Outlasts 10000 := .inl (by decide)
    have late := (comes_naming defaultIdHeader [slow]).eq_none_of_outlasts rests (by decide)
    obtain ⟨now, world, answered⟩ := handle_naming late
    exact ⟨_, answered, by decide +kernel⟩
  · obtain ⟨now, world, answered⟩ := handle_naming (came_naming "Content-Type")
    exact ⟨_, answered, by decide +kernel⟩

end HttpService.Pipeline
