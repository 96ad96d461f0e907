import HttpService.Proofs.Concurrency.Lockstep
import HttpService.Proofs.Pipeline.HeadBody
import HttpService.Proofs.Routing.Lookup

/-!
Contract: answers to HEAD next to answers to GET.

Owns:
- requests that are the same but for HEAD in the place of GET, and applications that treat them
  alike;
- that the chains, the replies and the responders of such applications stay alike;
- **the answer to HEAD is the answer to GET without its body**, as long as the work on the request
  leaves it a HEAD request.

Does not own: how a request is read.
-/

namespace HttpService

variable {World : Type}

/-! ## Requests alike -/

/-- The request with HEAD as its method. -/
def Request.asHead (request : Request) : Request :=
  { request with method := .head }

/-- A request and itself, or a GET request and the same one with HEAD in the place of GET. -/
inductive Request.Twin : Request → Request → Prop where
  | refl (request : Request) : Twin request request
  | head {request : Request} (isGet : request.method = .get) : Twin request request.asHead

/-- Outcomes that are the same but for twin requests. -/
structure Outcome.Twin (outcome other : Outcome World) : Prop where
  verdict : other.verdict = outcome.verdict
  response : other.response = outcome.response
  request : outcome.request.Twin other.request

/-- Chains that do the same with twin requests. -/
structure Chain.Twin (chain other : Chain World) : Prop where
  remaining : other.remaining = chain.remaining
  proceed : ∀ response request twin, Request.Twin request twin →
    (chain.proceed response request).Matches Outcome.Twin (other.proceed response twin)

/-- A middleware that treats twin requests alike, in front of chains that do. -/
def Middleware.Impartial (middleware : Middleware World) : Prop :=
  ∀ chain other : Chain World, chain.Twin other → ∀ response request twin,
    Request.Twin request twin →
      (middleware chain response request).Matches Outcome.Twin (middleware other response twin)

theorem Outcome.Twin.of_request {verdict : Verdict World} {response : Response}
    {request twin : Request} (same : request.Twin twin) :
    Outcome.Twin ⟨verdict, response, request⟩ ⟨verdict, response, twin⟩ :=
  ⟨rfl, rfl, same⟩

theorem Chain.twin_ofList {terminal : Response → Request → Job World (Outcome World)}
    {middleware : List (Middleware World)}
    (ending : ∀ response request twin, Request.Twin request twin →
      (terminal response request).Matches Outcome.Twin (terminal response twin))
    (each : ∀ next ∈ middleware, Middleware.Impartial next) :
    (Chain.ofList terminal middleware).Twin (Chain.ofList terminal middleware) := by
  induction middleware with
  | nil => exact ⟨rfl, ending⟩
  | cons next rest inductionHypothesis =>
      have further := inductionHypothesis fun later member =>
        each later (List.mem_cons_of_mem next member)
      exact ⟨rfl, each next List.mem_cons_self _ _ further⟩

theorem Outcome.Twin.refl (outcome : Outcome World) : outcome.Twin outcome :=
  ⟨rfl, rfl, .refl outcome.request⟩

/-! ## Guards and dispatch -/

namespace Guard

theorem singletons_impartial (names : List String) :
    Middleware.Impartial (singletons names : Middleware World) := by
  intro chain other twins response request twin same
  have headers : twin.headers = request.headers := by
    cases same <;> rfl
  unfold singletons
  rw [headers]
  cases firstRepeatedHeader? names request.headers with
  | some name => exact .done (.of_request same)
  | none => exact twins.proceed response request twin same

theorem host_impartial (entries : List String) :
    Middleware.Impartial (host entries : Middleware World) := by
  intro chain other twins response request twin same
  have headers : twin.headers = request.headers := by
    cases same <;> rfl
  unfold host
  rw [headers]
  cases checkHost entries request.headers with
  | error fault => exact .done (.of_request same)
  | ok name =>
      refine twins.proceed response _ _ ?_
      cases same with
      | refl => exact .refl _
      | head isGet => exact .head isGet

theorem identify_impartial {source : IdSource World}
    (alike : ∀ request : Request, request.method = .get → source request.asHead = source request)
    (header : String) : Middleware.Impartial (identify source header) := by
  intro chain other twins response request twin same
  have asked : source twin = source request := by
    cases same with
    | refl => rfl
    | head isGet => exact alike request isGet
  unfold identify
  rw [asked]
  have given : (Job.ofAction (source request)).Matches Eq (Job.ofAction (source request)) :=
    .refl (fun _ => rfl) _
  refine given.bind ?_
  rintro id _ rfl
  refine twins.proceed _ _ _ ?_
  cases same with
  | refl => exact .refl _
  | head isGet => exact .head isGet

end Guard

theorem guards_impartial {config : Config World}
    (alike : ∀ source, config.idSource = some source →
      ∀ request : Request, request.method = .get → source request.asHead = source request) :
    ∀ next ∈ guards config, Middleware.Impartial next :=
  forall_mem_guards Guard.singletons_impartial Guard.host_impartial fun source configured =>
    Guard.identify_impartial (alike source configured) config.idHeader

/-- The end of a chain treats twin requests alike if the handler for GET does. -/
theorem Terminal.dispatch_twin {terminal : Terminal World}
    (alike : ∀ endpoint, terminal.endpoint = some endpoint →
      ∀ handler, endpoint.get = some handler → ∀ response (request : Request),
        request.method = .get →
          (handler response request).Matches Eq (handler response request.asHead))
    (response : Response) (request twin : Request) (same : request.Twin twin) :
    (terminal.dispatch response request).Matches Outcome.Twin (terminal.dispatch response twin) := by
  cases same with
  | refl => exact .refl Outcome.Twin.refl _
  | head isGet =>
      have twins : request.Twin request.asHead := .head isGet
      have target : request.asHead.target = request.target := rfl
      have path : request.asHead.path = request.path := rfl
      unfold dispatch
      rw [target, path]
      by_cases whole : request.target.isAsterisk = true
      · rw [if_pos whole, if_pos whole]
        exact .done (.of_request twins)
      · rw [if_neg whole, if_neg whole]
        cases served : terminal.endpoint with
        | none => exact .done (.of_request twins)
        | some endpoint =>
            have getOptions : ¬ request.method = .options := by simp [isGet]
            have getTrace : ¬ (request.method = .trace ∧ terminal.allowTrace = true) := by
              simp [isGet]
            have headOptions : ¬ request.asHead.method = .options := nofun
            have headTrace : ¬ (request.asHead.method = .trace ∧ terminal.allowTrace = true) :=
              nofun
            simp only
            rw [if_neg getOptions, if_neg headOptions, if_neg getTrace, if_neg headTrace]
            have getSlot : endpoint.handler? request.method = endpoint.get := by
              rw [isGet]
              rfl
            have headSlot : endpoint.handler? request.asHead.method = endpoint.get := rfl
            unfold runHandler
            rw [getSlot, headSlot]
            cases slot : endpoint.get with
            | none => exact .done (.of_request twins)
            | some handler =>
                refine (alike endpoint served handler slot response request isGet).bind ?_
                rintro ⟨verdict, left⟩ _ rfl
                cases verdict with
                | error fault => exact .done (.of_request twins)
                | ok _ => exact .done (.of_request twins)

namespace Pipeline

/-- An application that treats twin requests alike: its middleware, the handlers of its routes, its
source of identifiers and its responders. -/
structure Impartial (pipeline : Pipeline World) (own : List (Middleware World)) : Prop where
  middleware : ∀ next ∈ own, Middleware.Impartial next
  handlers : ∀ target endpoint rest, pipeline.router.route? target = some (endpoint, rest) →
    ∀ handler, endpoint.get = some handler → ∀ response (request : Request),
      request.method = .get →
        (handler response request).Matches Eq (handler response request.asHead)
  source : ∀ source, pipeline.config.idSource = some source →
    ∀ request : Request, request.method = .get → source request.asHead = source request
  responders : ∀ entry ∈ pipeline.responders.entries, ∀ response (request : Request),
    request.method = .get → entry.2 response request.asHead = entry.2 response request

/-! ## The way to the chain -/

section

variable {pipeline : Pipeline World} {own : List (Middleware World)}

/-- Rewriting and routing do not look at the method. -/
theorem directed_asHead (pipeline : Pipeline World) (request : Request) :
    pipeline.directed request.asHead =
      match pipeline.directed request with
      | .error (error, left) => .error (error, left.asHead)
      | .ok (endpoint, routed) => .ok (endpoint, routed.asHead) := by
  unfold Pipeline.directed
  have target : request.asHead.target = request.target := rfl
  rw [target]
  simp only
  cases (pipeline.rewrites.rewrite request.target).result with
  | error error => rfl
  | ok _ =>
      cases pipeline.router.route? (pipeline.rewrites.rewrite request.target).target with
      | none => rfl
      | some found => rfl

/-- The chains of twin requests do the same. -/
theorem Impartial.chainJob (impartial : pipeline.Impartial own)
    (stack : pipeline.middleware = guards pipeline.config ++ own) {request routed : Request}
    {endpoint : Option (Endpoint World)}
    (directed : pipeline.directed request = .ok (endpoint, routed))
    (isGet : routed.method = .get) :
    (pipeline.chainJob endpoint routed).Matches Outcome.Twin
      (pipeline.chainJob endpoint routed.asHead) := by
  have each : ∀ next ∈ pipeline.middleware, Middleware.Impartial next := by
    rw [stack]
    exact List.forall_mem_append.mpr ⟨guards_impartial impartial.source, impartial.middleware⟩
  have ending := (pipeline.terminal endpoint).dispatch_twin (by
    rintro found rfl handler slot
    obtain ⟨rest, _, routes⟩ := retargeted_of_directed directed
    obtain ⟨whole, route⟩ := routes found rfl
    exact impartial.handlers whole found rest route handler slot)
  have given : Response.forMethod routed.asHead.method = Response.forMethod routed.method := by
    rw [isGet]
    rfl
  have twins := (Chain.twin_ofList ending each).proceed (.forMethod routed.method) routed
    routed.asHead (.head isGet)
  unfold Pipeline.chainJob chain
  rw [given]
  exact twins

/-- What the chains of twin requests are found to have come to is alike, and so are the engines
that are left. -/
theorem Impartial.chainRun (impartial : pipeline.Impartial own)
    (stack : pipeline.middleware = guards pipeline.config ++ own) {request routed : Request}
    {endpoint : Option (Endpoint World)}
    (directed : pipeline.directed request = .ok (endpoint, routed))
    (isGet : routed.method = .get) (engine : Engine World) :
    Machine.SameWait Outcome.Twin (pipeline.chainRun request endpoint routed engine)
      (pipeline.chainRun request.asHead endpoint routed.asHead engine) := by
  have begun : Machine.Lockstep Outcome.Twin (pipeline.announced request engine)
      (pipeline.announced request engine) := .refl Outcome.Twin.refl _
  have spawned := begun.spawn (impartial.chainJob stack directed isGet)
  exact spawned.await _ _

/-! ## From the chain to the answer -/

/-- Judgements that are the same but for twin requests. -/
def SameJudgement (judgement other : Judgement World) : Prop :=
  other.1 = judgement.1 ∧ other.2.1 = judgement.2.1 ∧ judgement.2.2.Twin other.2.2

theorem matches_resolved (pipeline : Pipeline World) (fault : Fault World) (response : Response)
    {left twin : Request} (same : left.Twin twin) :
    ((fault.resolve pipeline.config.mapper).map fun error =>
      ((some error, response, left) : Judgement World)).Matches SameJudgement
        ((fault.resolve pipeline.config.mapper).map fun error => (some error, response, twin)) := by
  have resolved := Action.Matches.refl (fun _ => rfl) (fault.resolve pipeline.config.mapper)
  refine resolved.bind ?_
  rintro error _ rfl
  exact Action.matches_pure ⟨rfl, rfl, same⟩

theorem matches_judged (pipeline : Pipeline World) (given : Response) {routed twin : Request}
    (same : routed.Twin twin) {came other : Option (Except Panic (Outcome World))}
    (alike : Option.Rel (SameEnd Outcome.Twin) came other) :
    (pipeline.judged given routed came).Matches SameJudgement
      (pipeline.judged given twin other) := by
  cases alike with
  | none => exact matches_resolved pipeline .deadlineExceeded given same
  | some ended =>
      cases ended with
      | panic payload => exact Action.matches_pure ⟨rfl, rfl, same⟩
      | value twins =>
          rename_i outcome otherOutcome
          obtain ⟨verdict, response, left⟩ := outcome
          obtain ⟨otherVerdict, otherResponse, otherLeft⟩ := otherOutcome
          obtain ⟨sameVerdict, sameResponse, twinLeft⟩ := twins
          cases sameVerdict
          cases sameResponse
          cases verdict with
          | ok _ => exact Action.matches_pure ⟨rfl, rfl, twinLeft⟩
          | error fault => exact matches_resolved pipeline fault response twinLeft

/-- Replies that are the same but for twin requests. -/
def SameReply (parts other : Response × Request) : Prop :=
  other.1 = parts.1 ∧ parts.2.Twin other.2

theorem matches_writtenDown {judgement other : Judgement World}
    (same : SameJudgement judgement other) :
    (writtenDown judgement).Matches SameReply (writtenDown other) := by
  obtain ⟨sameError, sameResponse, twins⟩ := same
  unfold writtenDown
  rw [sameError, sameResponse]
  refine (Action.Matches.refl (fun _ => rfl) (reported judgement.1)).bind ?_
  rintro _ _ rfl
  exact Action.matches_pure ⟨rfl, twins⟩

/-- The work on twin requests comes to the same, and leaves engines alike. -/
theorem Impartial.worked (impartial : pipeline.Impartial own)
    (stack : pipeline.middleware = guards pipeline.config ++ own) {request : Request}
    (isGet : request.method = .get) (engine : Engine World) :
    (pipeline.worked request engine).1.Matches SameJudgement
        (pipeline.worked request.asHead engine).1 ∧
      (pipeline.worked request.asHead engine).2.clock = (pipeline.worked request engine).2.clock ∧
      (pipeline.worked request.asHead engine).2.world =
        (pipeline.worked request engine).2.world := by
  have given : Response.forMethod request.asHead.method = Response.forMethod request.method := by
    rw [isGet]
    rfl
  have way := directed_asHead pipeline request
  cases directed : pipeline.directed request with
  | error failure =>
      obtain ⟨error, left⟩ := failure
      rw [directed] at way
      have twins : left.Twin left.asHead := .head ((method_of_misdirected directed).trans isGet)
      rw [worked_misdirected directed, worked_misdirected way, given]
      exact ⟨matches_judged pipeline _ twins (.some (.value (.of_request twins))), rfl, rfl⟩
  | ok found =>
      obtain ⟨endpoint, routed⟩ := found
      rw [directed] at way
      have method : routed.method = .get := (of_directed directed).1.trans isGet
      obtain ⟨alike, step⟩ := impartial.chainRun stack directed method engine
      rw [worked_directed directed rfl, worked_directed way rfl, given]
      exact ⟨matches_judged pipeline _ (.head method) alike, step.clock, step.world⟩

/-- The work on twin requests makes the same of them, and leaves engines alike. -/
theorem Impartial.prepare (impartial : pipeline.Impartial own)
    (stack : pipeline.middleware = guards pipeline.config ++ own) {request : Request}
    (isGet : request.method = .get) (peer : Option Network.SocketAddress) (engine : Engine World) :
    SameEnd SameReply (pipeline.prepare request peer engine).1
        (pipeline.prepare request.asHead peer engine).1 ∧
      (pipeline.prepare request.asHead peer engine).2.clock =
        (pipeline.prepare request peer engine).2.clock ∧
      (pipeline.prepare request.asHead peer engine).2.world =
        (pipeline.prepare request peer engine).2.world := by
  by_cases timely : pipeline.HasDeadline engine.clock
  · have isGetOpened : (pipeline.opened request peer engine.clock).method = .get := isGet
    obtain ⟨judged, clock, world⟩ := impartial.worked stack isGetOpened engine
    have got := performs_prepare timely request peer
    have headed := performs_prepare timely request.asHead peer
    have openedHead : pipeline.opened request.asHead peer engine.clock =
        (pipeline.opened request peer engine.clock).asHead := rfl
    rw [openedHead] at headed
    obtain ⟨ends, worlds⟩ := (judged.bind fun _ _ => matches_writtenDown)
      (pipeline.worked (pipeline.opened request peer engine.clock) engine).2.clock
      (pipeline.worked (pipeline.opened request peer engine.clock) engine).2.world
    rw [got.result, headed.result, got.clock, headed.clock, got.world, headed.world, clock, world]
    exact ⟨ends, rfl, worlds⟩
  · rw [prepare_of_not_hasDeadline timely, prepare_of_not_hasDeadline timely]
    exact ⟨.panic deadlineTooFar, rfl, rfl⟩

theorem Impartial.reworked (impartial : pipeline.Impartial own) (response : Response)
    {left twin : Request} (same : left.Twin twin) :
    pipeline.reworked response twin = pipeline.reworked response left := by
  cases same with
  | refl => rfl
  | head isGet =>
      unfold Pipeline.reworked Responders.respond
      cases found : pipeline.responders.find? response.status with
      | none => rfl
      | some responder =>
          have alike : responder response left.asHead = responder response left :=
            impartial.responders _ (mem_entries_of_find? found) response left isGet
          simp only
          rw [alike]

/-! ## The answers -/

/-- What is sent after HEAD, next to what is sent after GET. -/
theorem toBytes_of_twin {left twin : Request} (same : left.Twin twin) (response : Response) :
    (withoutHeadBody left response).toBytes =
        (withoutHeadBody twin response).toBytes ++ (withoutHeadBody left response).body ↔
      twin.method = .head ∨ (withoutHeadBody left response).body = [] := by
  cases same with
  | refl =>
      rw [List.self_eq_append_right]
      constructor
      · exact .inr
      · rintro (isHead | empty)
        · exact body_withoutHeadBody isHead response
        · exact empty
  | head isGet =>
      have other : left.method ≠ .head := by
        rw [isGet]
        decide
      have headed : left.asHead.method = .head := rfl
      unfold withoutHeadBody
      rw [if_neg other, if_pos headed]
      exact ⟨fun _ => .inl rfl, fun _ => response.toBytes_eq_stripBody⟩

end

/-- **HEAD next to GET.** An application that treats twin requests alike is asked the same by GET
and by HEAD. Either both requests end with the same panic, or both are answered; then what is sent
after HEAD is what is sent after GET in front of the body, if and only if the work on the HEAD
request has left it one or there is no body. No middleware of the application that keeps the method
makes it another request. -/
theorem head_answered_like_get {pipeline : Pipeline World} {own : List (Middleware World)}
    (stack : pipeline.middleware = guards pipeline.config ++ own)
    (impartial : pipeline.Impartial own) {raw : Bytes} {request : Request}
    (parsed : Wire.readRequest raw pipeline.config.maxBody = .ok request)
    (isGet : request.method = .get) (peer : Option Network.SocketAddress) (engine : Engine World) :
    (∃ payload, (pipeline.handle raw peer engine).1 = .error payload ∧
      (pipeline.handle (Wire.headInstead raw) peer engine).1 = .error payload) ∨
    ∃ got headed built left, (pipeline.handle raw peer engine).1 = .ok got ∧
      (pipeline.handle (Wire.headInstead raw) peer engine).1 = .ok headed ∧
      (pipeline.reply (Wire.headInstead raw) peer engine).1 = .ok ⟨built, some left⟩ ∧
      (got.toBytes = headed.toBytes ++ got.body ↔ left.method = .head ∨ got.body = []) ∧
      ((∀ next ∈ own, Middleware.Keeps keepsMethod next) → engine.Fresh → left.method = .head) := by
  have parsedHead : Wire.readRequest (Wire.headInstead raw) pipeline.config.maxBody =
      .ok request.asHead := Wire.readRequest_headInstead parsed isGet
  obtain ⟨same, clock, world⟩ := impartial.prepare stack isGet peer engine
  cases prepared : pipeline.prepare request peer engine with | mk parts before => ?_
  cases preparedHead : pipeline.prepare request.asHead peer engine with | mk other later => ?_
  rw [prepared, preparedHead] at same clock world
  cases same with
  | panic payload =>
      exact .inl ⟨payload, handle_of_prepare_eq_error parsed prepared,
        handle_of_prepare_eq_error parsedHead preparedHead⟩
  | value alike =>
      rename_i parts twinParts
      obtain ⟨response, left⟩ := parts
      obtain ⟨twinResponse, twin⟩ := twinParts
      obtain ⟨sameResponse, twins⟩ := alike
      have sameResponse : twinResponse = response := sameResponse
      have twins : left.Twin twin := twins
      subst sameResponse
      have answered := handle_of_prepare parsed prepared
      have answeredHead := handle_of_prepare parsedHead preparedHead
      rw [clock, world, impartial.reworked twinResponse twins] at answeredHead
      cases reworked : (pipeline.reworked twinResponse left before.clock before.world).1 with
      | error payload =>
          rw [reworked] at answered answeredHead
          exact .inl ⟨payload, answered, answeredHead⟩
      | ok responded =>
          rw [reworked] at answered answeredHead
          have replied : (pipeline.reply (Wire.headInstead raw) peer engine).1 =
              .ok ⟨twinResponse, some twin⟩ := by
            rw [reply_of_readRequest peer engine parsedHead, preparedHead]
            rfl
          refine .inr ⟨withoutHeadBody left responded, withoutHeadBody twin responded, twinResponse,
            twin, answered, answeredHead, replied, toBytes_of_twin twins responded, ?_⟩
          intro keeps fresh
          exact method_of_prepare stack keeps fresh preparedHead

/-! ## A service without routes -/

theorem impartial_asGet : Middleware.Impartial asGet := by
  intro chain other twins response request twin same
  refine twins.proceed response _ _ ?_
  cases same with
  | refl => exact .refl _
  | head isGet => exact .refl _

theorem route?_empty {α : Type} (target : Target) :
    (Routing.Router.empty : Routing.Router α).route? target = none := by
  unfold Routing.Router.route?
  split
  · rfl
  · show ((Routing.Trie.empty : Routing.Trie α).find? target.path).map _ = _
    rw [Routing.Trie.find?_empty]
    rfl

theorem impartial_unrouted {own : List (Middleware Unit)}
    (impartial : ∀ next ∈ own, Middleware.Impartial next) : (unrouted own).Impartial own where
  middleware := impartial
  handlers := by
    intro target endpoint rest route
    cases (route?_empty target).symm.trans route
  source := nofun
  responders := nofun

theorem headInstead_askBytes : Wire.headInstead (askBytes .get) = askBytes .head := by
  decide +kernel

theorem head_answered_like_get_unrouted :
    (unrouted []).Impartial [] ∧
      Wire.readRequest (askBytes .get) (unrouted []).config.maxBody = .ok (askRequest .get) ∧
      ∃ got headed, ((unrouted []).handle (askBytes .get) none (.start ())).1 = .ok got ∧
        ((unrouted []).handle (askBytes .head) none (.start ())).1 = .ok headed ∧
        got.toBytes = headed.toBytes ++ got.body := by
  have impartial : (unrouted []).Impartial [] := impartial_unrouted nofun
  refine ⟨impartial, parsed_ask_get, ?_⟩
  have answered := head_answered_like_get rfl impartial parsed_ask_get rfl none (.start ())
  rw [headInstead_askBytes] at answered
  rcases answered with ⟨payload, panicked, _⟩ | ⟨got, headed, _, left, sent, sentHead, _, same, kept⟩
  · obtain ⟨response, responded⟩ := answered_unrouted parsed_ask_get
    cases panicked.symm.trans responded
  · exact ⟨got, headed, sent, sentHead, same.mpr (.inl (kept nofun (Machine.fresh_start ())))⟩

/-- Behind a middleware that makes every request a GET request, the answer to HEAD is all of the
answer to GET. -/
theorem head_answered_with_body :
    (unrouted [asGet]).Impartial [asGet] ∧
      ∃ got, got.body ≠ [] ∧ ((unrouted [asGet]).handle (askBytes .get) none (.start ())).1 = .ok got ∧
        ((unrouted [asGet]).handle (Wire.headInstead (askBytes .get)) none (.start ())).1 = .ok got ∧
        got.toBytes ≠ got.toBytes ++ got.body := by
  have impartial : (unrouted [asGet]).Impartial [asGet] := by
    refine impartial_unrouted ?_
    intro next member
    rw [List.mem_singleton.mp member]
    exact impartial_asGet
  have filled := Response.body_writeError_ne_nil (Response.forMethod .get) (unroutedError Unit)
  have answeredHead := handle_asGet parsed_ask_head
  rw [headInstead_askBytes]
  refine ⟨impartial, (Response.forMethod .get).writeError (unroutedError Unit), filled,
    handle_asGet parsed_ask_get, answeredHead, ?_⟩
  intro same
  exact filled (List.self_eq_append_right.mp same)

end Pipeline

end HttpService
