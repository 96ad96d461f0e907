import HttpService.Proofs.Pipeline.Allowing
import HttpService.Proofs.Routing.Lookup

/-!
Contract: services that have nothing but their guards between a request and its handler.

Owns:
- such services: without rewriting, middleware of their own, a mapper and responders;
- what they send of an outcome, and that they always come to one in time;
- **that the list of methods tells the truth**: of one request by every method, those are refused
  that the route does not list, and whoever asks for the list or is refused is sent it;
- services without time, with more time than the clock can tell, or with a source of identifiers that
  panics, which do not even say so.

Does not own: what handlers answer.
-/

namespace HttpService

variable {World : Type}

namespace Routing

theorem RewriteTable.rewrite_empty (target : Target) :
    RewriteTable.empty.rewrite target = ⟨target, .ok false, []⟩ := by
  have nowhere : RewriteTable.empty.rules.find? target.edgePath = none := Trie.find?_empty _
  unfold RewriteTable.rewrite
  split
  · rfl
  · rw [nowhere]

/-- A route leaves its path parameters on a target, and all else as it is. -/
theorem Router.retargeted_of_route? {α : Type} {router : Router α} {target left : Target}
    {value : α} (routed : router.route? target = some (value, left)) :
    ∃ params, left = { target with pathParams := params } := by
  unfold route? at routed
  split at routed
  · cases routed
  · obtain ⟨found, _, same⟩ := Option.map_eq_some_iff.mp routed
    cases same
    exact ⟨found.params, rfl⟩

end Routing

theorem Fault.resolve_none (fault : Fault World) :
    fault.resolve none = .pure fault.defaultError := by
  cases fault <;> rfl

namespace Pipeline

/-- A service with nothing but its guards between a request and its handler, with some time to
answer, and whose source of identifiers does not panic, if it has one. -/
structure Unlayered (pipeline : Pipeline World) : Prop where
  middleware : pipeline.middleware = guards pipeline.config
  rewrites : pipeline.rewrites = .empty
  mapper : pipeline.config.mapper = none
  responders : pipeline.responders = .empty
  time : 0 < pipeline.config.writeTimeout
  source : ∀ source, pipeline.config.idSource = some source → ∀ request, (source request).Calm

section

variable {pipeline : Pipeline World}

theorem Unlayered.directed (unlayered : pipeline.Unlayered) (request : Request) :
    pipeline.directed request =
      match pipeline.router.route? request.target with
      | some (endpoint, target) => .ok (some endpoint, { request with target := target })
      | none => .ok (none, request) := by
  have kept := Routing.RewriteTable.rewrite_empty request.target
  rw [← unlayered.rewrites] at kept
  unfold Pipeline.directed
  cases routed : pipeline.router.route? request.target with
  | none => simp only [kept, routed]
  | some found => simp only [kept, routed]

theorem Unlayered.delivered (unlayered : pipeline.Unlayered) (response : Response)
    (left : Request) : pipeline.delivered response left = .pure (withoutHeadBody left response) := by
  unfold Pipeline.delivered Pipeline.reworked
  rw [unlayered.responders]
  split
  · rfl
  · rfl

/-- What is sent of an outcome in time whose fault is not the server's. -/
theorem Unlayered.inTimeAnswer (unlayered : pipeline.Unlayered) {outcome : Outcome World}
    (blameless : outcome.Blameless) :
    pipeline.inTimeAnswer outcome = .pure (withoutHeadBody outcome.request outcome.settled) := by
  obtain ⟨verdict, response, left⟩ := outcome
  unfold Pipeline.inTimeAnswer Outcome.settled
  cases verdict with
  | ok _ => exact unlayered.delivered response left
  | error fault =>
      have quiet : reported (some fault.defaultError) = .pure () :=
        reported_of_not_serverError (by rw [blameless fault rfl]; decide)
      simp only
      rw [unlayered.mapper, Fault.resolve_none, Action.pure_bind, quiet, Action.pure_bind]
      exact unlayered.delivered _ left

/-- Behind the guards there is nothing but the end of the chain, on a response that it can answer
with. -/
theorem Unlayered.chainJob (unlayered : pipeline.Unlayered) {endpoint : Option (Endpoint World)}
    {routed : Request} {host : String} (passes : Passes pipeline.config routed.headers host)
    {rests : Bool} {post : Outcome World → Prop}
    (dispatches : ∀ (response : Response) (request : Request), response.headers.Tidy →
      response.status ≠ .methodNotAllowed → request.target = routed.target →
        request.method = routed.method →
          ((pipeline.terminal endpoint).dispatch response request).Yields rests post) :
    (pipeline.chainJob endpoint routed).Yields rests post := by
  have stack : pipeline.middleware = guards pipeline.config ++ [] := by
    rw [unlayered.middleware, List.append_nil]
  have tidy : (Response.forMethod routed.method).headers.Tidy := Headers.tidy_empty.set _ _
  have accepting : (Response.forMethod routed.method).status ≠ .methodNotAllowed := by
    cases routed.method <;> decide
  cases named : pipeline.config.idSource with
  | none =>
      rw [chainJob_passes stack named passes]
      exact dispatches _ _ tidy accepting rfl rfl
  | some source =>
      rw [chainJob_identified stack named passes]
      refine (Job.yields_ofAction (unlayered.source source named _)).bind fun id _ => ?_
      exact dispatches _ _ (tidy.set _ _) accepting rfl rfl

theorem target_opened (request : Request) (peer : Option Network.SocketAddress) (start : Nat) :
    (pipeline.opened request peer start).target = request.target :=
  rfl

/-- **A service without layers answers with what the end of its chain comes to**, whenever there is
a deadline and this is not late by its rests. -/
theorem Unlayered.handle (unlayered : pipeline.Unlayered) {raw : Bytes} {request : Request}
    {host : String} {peer : Option Network.SocketAddress} {engine : Engine World}
    {endpoint : Option (Endpoint World)} {target : Target} {rests : Bool} {post : Outcome World → Prop}
    (fresh : engine.Fresh) (timely : pipeline.HasDeadline engine.clock)
    (parsed : Wire.readRequest raw pipeline.config.maxBody = .ok request)
    (passes : Passes pipeline.config request.headers host)
    (directed : pipeline.directed (pipeline.opened request peer engine.clock) =
      .ok (endpoint, { pipeline.opened request peer engine.clock with target := target }))
    (dispatches : ∀ (response : Response) (asked : Request), response.headers.Tidy →
      response.status ≠ .methodNotAllowed → asked.target = target →
        asked.method = request.method →
          ((pipeline.terminal endpoint).dispatch response asked).Yields rests fun outcome =>
            outcome.Blameless ∧ post outcome)
    (inTime : rests = true → ∀ routed, ¬pipeline.Came request peer engine routed none) :
    ∃ outcome, post outcome ∧ (pipeline.handle raw peer engine).1 =
      .ok (withoutHeadBody outcome.request outcome.settled) := by
  have yields : (pipeline.chainJob endpoint
      { pipeline.opened request peer engine.clock with target := target }).Yields rests
        fun outcome => outcome.Blameless ∧ post outcome := by
    apply unlayered.chainJob
    · exact passes
    · exact dispatches
  have comes := comes_chainRun fresh pipeline (pipeline.opened request peer engine.clock) endpoint
    { pipeline.opened request peer engine.clock with target := target }
  obtain ⟨outcome, came, blameless, holds⟩ :=
    yields.of_comes comes (Nat.lt_add_of_pos_right unlayered.time)
      fun resting late => inTime resting _ ⟨timely, endpoint, directed, late⟩
  obtain ⟨now, world, answered⟩ := handle_inTime parsed ⟨timely, endpoint, directed, came⟩
  refine ⟨outcome, holds, ?_⟩
  rw [answered, unlayered.inTimeAnswer blameless]
  rfl

theorem Unlayered.handle_unrouted (unlayered : pipeline.Unlayered) {raw : Bytes} {request : Request}
    {host : String} {peer : Option Network.SocketAddress} {engine : Engine World}
    (fresh : engine.Fresh) (timely : pipeline.HasDeadline engine.clock)
    (parsed : Wire.readRequest raw pipeline.config.maxBody = .ok request)
    (passes : Passes pipeline.config request.headers host)
    (ordinary : request.target.isAsterisk = false)
    (unrouted : pipeline.router.route? request.target = none) :
    ∃ got, (pipeline.handle raw peer engine).1 = .ok got ∧ got.status = .notFound := by
  have directed := unlayered.directed (pipeline.opened request peer engine.clock)
  rw [target_opened, unrouted] at directed
  obtain ⟨outcome, found, answered⟩ := unlayered.handle fresh timely parsed passes directed
    (fun response asked _ _ same _ => Terminal.dispatch_unrouted rfl (same ▸ ordinary) response)
    nofun
  exact ⟨_, answered, (Response.status_withoutHeadBody _ _).trans found⟩

theorem Unlayered.handle_routed (unlayered : pipeline.Unlayered) {raw : Bytes} {request : Request}
    {host : String} {peer : Option Network.SocketAddress} {engine : Engine World}
    {endpoint : Endpoint World} {target : Target} {rests : Bool} (fresh : engine.Fresh)
    (timely : pipeline.HasDeadline engine.clock)
    (parsed : Wire.readRequest raw pipeline.config.maxBody = .ok request)
    (passes : Passes pipeline.config request.headers host)
    (ordinary : request.target.isAsterisk = false)
    (routed : pipeline.router.route? request.target = some (endpoint, target))
    (steady : endpoint.Steady rests)
    (inTime : (endpoint.handler? request.method).isSome = true → rests = true →
      ∀ routed, ¬pipeline.Came request peer engine routed none) :
    ∃ got, (pipeline.handle raw peer engine).1 = .ok got ∧
      got.Tells request.method (endpoint.allowedMethods pipeline.config.allowTrace) := by
  have directed := unlayered.directed (pipeline.opened request peer engine.clock)
  rw [target_opened, routed] at directed
  have plain : target.isAsterisk = false := by
    obtain ⟨params, rfl⟩ := Routing.Router.retargeted_of_route? routed
    exact ordinary
  have served : (pipeline.terminal (some endpoint)).endpoint = some endpoint := rfl
  have dispatches : ∀ (response : Response) (asked : Request), response.headers.Tidy →
      response.status ≠ .methodNotAllowed → asked.target = target →
        asked.method = request.method →
          ((pipeline.terminal (some endpoint)).dispatch response asked).Yields
            ((endpoint.handler? request.method).isSome && rests) fun outcome =>
              outcome.Blameless ∧ outcome.settled.Tells request.method
                (endpoint.allowedMethods pipeline.config.allowTrace) := by
    rintro response asked tidy accepting rfl method
    rw [← method]
    exact Terminal.dispatch_routed served plain steady tidy accepting
  obtain ⟨outcome, tells, answered⟩ := unlayered.handle fresh timely parsed passes directed
    dispatches fun resting =>
      inTime (Bool.and_eq_true_iff.mp resting).1 (Bool.and_eq_true_iff.mp resting).2
  exact ⟨_, answered, tells.withoutHeadBody outcome.request⟩

/-- **The list of methods tells the truth.** A service without layers is sent eight requests that
are valid and the same but for their methods, each at a time of its own that leaves it a deadline. If
no route matches, none of them finds anything. If one does whose handlers neither fail nor panic nor
refuse a method, and are not late in case they rest, then those are refused whose method is not among
the items of the route's list, and no others; and OPTIONS and all that are refused are sent this list
and no other. -/
theorem allow_tells_truth (unlayered : pipeline.Unlayered) {behind : Bytes}
    {requests : Method → Request} {host : String}
    (read : ∀ method, Wire.readRequest (Wire.asking method behind) pipeline.config.maxBody =
      .ok (requests method))
    (passes : Passes pipeline.config (requests .get).headers host)
    (ordinary : (requests .get).target.isAsterisk = false)
    (peers : Method → Option Network.SocketAddress) {engines : Method → Engine World}
    (fresh : ∀ method, (engines method).Fresh)
    (timely : ∀ method, pipeline.HasDeadline (engines method).clock) :
    (pipeline.router.route? (requests .get).target = none →
      ∀ method, ∃ got,
        (pipeline.handle (Wire.asking method behind) (peers method) (engines method)).1 = .ok got ∧
          got.status = .notFound) ∧
    ∀ endpoint target, pipeline.router.route? (requests .get).target = some (endpoint, target) →
      ∀ rests, endpoint.Steady rests →
      (rests = true → ∀ method routed, (endpoint.handler? method).isSome = true →
        ¬pipeline.Came (requests method) (peers method) (engines method) routed none) →
      ∀ method, ∃ got,
        (pipeline.handle (Wire.asking method behind) (peers method) (engines method)).1 = .ok got ∧
          (got.status = .methodNotAllowed ↔
            method.token.toList ∉ commaSeparated (endpoint.allow pipeline.config.allowTrace)) ∧
          (method = .options ∨ got.status = .methodNotAllowed →
            got.headers.valuesOf "Allow" = [endpoint.allow pipeline.config.allowTrace]) := by
  -- What the other requests share with the one by GET.
  have shared : ∀ method, (requests method).method = method ∧
      (requests method).target = (requests .get).target ∧
        Passes pipeline.config (requests method).headers host := by
    intro method
    obtain ⟨_, own, target, headers⟩ := Wire.alike_of_asking (read .get) (read method)
    exact ⟨own, target, headers ▸ passes⟩
  constructor
  · intro unrouted method
    obtain ⟨_, target, passes⟩ := shared method
    exact unlayered.handle_unrouted (fresh method) (timely method) (read method) passes
      (target ▸ ordinary) (target ▸ unrouted)
  · intro endpoint aimed routed rests steady inTime method
    obtain ⟨own, target, passes⟩ := shared method
    obtain ⟨got, answered, tells⟩ := unlayered.handle_routed (fresh method) (timely method)
      (read method) passes (target ▸ ordinary) (target ▸ routed) steady
      fun serves resting routed => inTime resting method routed (own ▸ serves)
    rw [own] at tells
    refine ⟨got, answered, ?_, tells.listed⟩
    rw [Endpoint.token_mem_allow_iff]
    exact tells.refused

end

/-! ## Requests for `/a` -/

/-- What stands behind the method in a request for this path. -/
def behindMethod : Bytes :=
  Utf8.encode "/a HTTP/1.1\r\nHost: x\r\n\r\n"

/-- Such a request by a method. -/
def askedBy (method : Method) : Request :=
  .make method ⟨["a"], none, "/a", false, [], .empty⟩ (Headers.empty.append "Host" "x")
    (if method = .trace then Wire.asking .trace behindMethod else [])

theorem read_askedBy (method : Method) :
    Wire.readRequest (Wire.asking method behindMethod) Wire.defaultMaxBody =
      .ok (askedBy method) := by
  cases method <;> decide +kernel

theorem passes_askedBy {config : Config Unit} (single : config.singletonHeaders = [])
    (every : config.allowedHosts = []) : Passes config (askedBy .get).headers "x" := by
  constructor
  · rw [single]
    decide +kernel
  · rw [every]
    rfl

/-- Handlers of which the only one, by GET, leaves the response as it is. -/
def greeting : Endpoint Unit :=
  Endpoint.empty.withHandler .get fun response _ => .done (.ok (), response)

/-- A service with these handlers for `/a`. -/
def greeter : Pipeline Unit :=
  ⟨.default, ⟨(Routing.Trie.empty.insert ⟨[.literal "a"]⟩ greeting).2, .root⟩, .empty,
    guards .default, .empty⟩

theorem steady_greeting : greeting.Steady false := by
  rintro method handler known response request accepting
  cases method <;> cases known
  · exact ⟨rfl, accepting⟩
  · exact ⟨rfl, accepting⟩

theorem unlayered_greeter : greeter.Unlayered where
  middleware := rfl
  rewrites := rfl
  mapper := rfl
  responders := rfl
  time := by decide
  source := nofun

/-- POST is refused with the list, and GET is not refused. -/
theorem allow_tells_truth_greeter :
    greeter.Unlayered ∧
      greeter.HasDeadline (Machine.start () : Engine Unit).clock ∧
      (∀ method, Wire.readRequest (Wire.asking method behindMethod) greeter.config.maxBody =
        .ok (askedBy method)) ∧
      Passes greeter.config (askedBy .get).headers "x" ∧
      greeter.router.route? (askedBy .get).target = some (greeting, (askedBy .get).target) ∧
      greeting.Steady false ∧
      (∃ got, (greeter.handle (Wire.asking .get behindMethod) none (.start ())).1 = .ok got ∧
        got.status ≠ .methodNotAllowed) ∧
      ∃ got, (greeter.handle (Wire.asking .post behindMethod) none (.start ())).1 = .ok got ∧
        got.status = .methodNotAllowed ∧
        got.headers.valuesOf "Allow" = ["GET, HEAD, OPTIONS"] := by
  have passes : Passes greeter.config (askedBy .get).headers "x" := passes_askedBy rfl rfl
  have routed : greeter.router.route? (askedBy .get).target =
      some (greeting, (askedBy .get).target) := rfl
  have fresh : ∀ method : Method, (Machine.start () : Engine Unit).Fresh :=
    fun _ => Machine.fresh_start ()
  have timely : greeter.HasDeadline (Machine.start () : Engine Unit).clock := by decide
  have tells := (allow_tells_truth unlayered_greeter read_askedBy passes rfl (fun _ => none)
    fresh fun _ => timely).2 greeting _ routed false steady_greeting nofun
  have allow : greeting.allow greeter.config.allowTrace = "GET, HEAD, OPTIONS" := by decide
  refine ⟨unlayered_greeter, timely, read_askedBy, passes, routed, steady_greeting, ?_, ?_⟩
  · obtain ⟨got, answered, refused, _⟩ := tells .get
    refine ⟨got, answered, fun notAllowed => refused.mp notAllowed ?_⟩
    rw [allow]
    decide
  · obtain ⟨got, answered, refused, listed⟩ := tells .post
    have unlisted : got.status = .methodNotAllowed := by
      rw [refused, allow]
      decide
    rw [allow] at listed
    exact ⟨got, answered, unlisted, listed (.inr unlisted)⟩

/-! ## Services that do not come to an outcome -/

/-- A service that has nothing but its guards and no routes, and yet does not answer a valid request
for `/a` that there is no such route. -/
def Conceals (pipeline : Pipeline Unit) : Prop :=
  pipeline.middleware = guards pipeline.config ∧ pipeline.rewrites = .empty ∧
    pipeline.config.mapper = none ∧ pipeline.responders = .empty ∧
    (∀ method, Wire.readRequest (Wire.asking method behindMethod) pipeline.config.maxBody =
      .ok (askedBy method)) ∧
    Passes pipeline.config (askedBy .get).headers "x" ∧
    pipeline.router.route? (askedBy .get).target = none ∧
    ∀ got, (pipeline.handle (Wire.asking .get behindMethod) none (.start ())).1 = .ok got →
      got.status ≠ .notFound

/-- A service without routes and with some settings. -/
def routeless (config : Config Unit) : Pipeline Unit :=
  ⟨config, .empty, .empty, guards config, .empty⟩

/-- Settings that leave some time for an answer. -/
def timed (timeout : Nat) : Config Unit :=
  { (Config.default : Config Unit) with writeTimeout := timeout }

/-- Settings with a source of identifiers that panics. -/
def nameless : Config Unit :=
  { (Config.default : Config Unit) with idSource := some fun _ => .panic ⟨some "lost"⟩ }

section

variable {config : Config Unit}

theorem read_routeless (longest : config.maxBody = Wire.defaultMaxBody) (method : Method) :
    Wire.readRequest (Wire.asking method behindMethod) (routeless config).config.maxBody =
      .ok (askedBy method) := by
  rw [← read_askedBy method, ← longest]
  rfl

theorem conceals_routeless (mapper : config.mapper = none)
    (longest : config.maxBody = Wire.defaultMaxBody) (single : config.singletonHeaders = [])
    (every : config.allowedHosts = [])
    (unfound : ∀ got,
      ((routeless config).handle (Wire.asking .get behindMethod) none (.start ())).1 = .ok got →
        got.status ≠ .notFound) :
    Conceals (routeless config) :=
  ⟨rfl, rfl, mapper, rfl, read_routeless longest, passes_askedBy single every, rfl, unfound⟩

/-- A service does not say that it has no route if its chain does not come to an outcome. -/
theorem unfound_of_fruitless (mapper : config.mapper = none)
    (longest : config.maxBody = Wire.defaultMaxBody)
    (fruitless : ∀ outcome,
      ((routeless config).chainRun ((routeless config).opened (askedBy .get) none 0) none
        ((routeless config).opened (askedBy .get) none 0) (.start ())).1 ≠ some (.ok outcome))
    (got : Response)
    (answered : ((routeless config).handle (Wire.asking .get behindMethod) none (.start ())).1 =
      .ok got) :
    got.status ≠ .notFound := by
  have resolve : Fault.deadlineExceeded.resolve (routeless config).config.mapper =
      .pure Fault.deadlineExceeded.defaultError := by
    show Fault.deadlineExceeded.resolve config.mapper = _
    rw [mapper]
    exact Fault.resolve_none _
  cases ran : (routeless config).chainRun ((routeless config).opened (askedBy .get) none 0) none
      ((routeless config).opened (askedBy .get) none 0) (.start ()) with
  | mk came after =>
      obtain ⟨error, response, left, later, judges, concludes⟩ :=
        exists_judged (read_routeless longest .get) rfl ran answered
      rcases came with _ | ⟨payload | outcome⟩
      · unfold judged at judges
        rw [resolve] at judges
        cases judges
        cases concludes
        exact Status.noConfusion
      · cases judges
        cases concludes
        exact Status.noConfusion
      · exact absurd (congrArg Prod.fst ran) (fruitless outcome)

end

/-- What is late before it begins is answered so, and what panics is, whether or not there is a
route. Without a deadline nothing is answered. -/
theorem concealed_by_settings :
    Conceals (routeless (timed 0)) ∧ Conceals (routeless (timed (Deadline.lastMoment + 1))) ∧
      Conceals (routeless nameless) := by
  refine ⟨?_, ?_, ?_⟩
  · have late : ((routeless (timed 0)).chainRun
        ((routeless (timed 0)).opened (askedBy .get) none 0) none
        ((routeless (timed 0)).opened (askedBy .get) none 0) (.start ())).1 = none := rfl
    refine conceals_routeless rfl rfl rfl rfl (unfound_of_fruitless rfl rfl fun outcome came => ?_)
    cases late.symm.trans came
  · refine conceals_routeless rfl rfl rfl rfl fun got answered => ?_
    have timely : 0 + (Deadline.lastMoment + 1) ≤ Deadline.lastMoment :=
      hasDeadline_of_handle (read_routeless rfl .get) answered
    omega
  · have passes : Passes (routeless nameless).config
        ((routeless nameless).opened (askedBy .get) none 0).headers "x" := passes_askedBy rfl rfl
    have comes := comes_chainRun (Machine.fresh_start ()) (routeless nameless)
      ((routeless nameless).opened (askedBy .get) none 0) none
      ((routeless nameless).opened (askedBy .get) none 0)
    have stack : (routeless nameless).middleware = guards nameless ++ [] := rfl
    rw [chainJob_identified stack rfl passes] at comes
    obtain ⟨_, panicked⟩ := comes.behind_act (by decide)
    have panicked : (Job.ofOutcome (.error ⟨some "lost"⟩)).Comes 0 10000
        ((routeless nameless).chainRun ((routeless nameless).opened (askedBy .get) none 0) none
          ((routeless nameless).opened (askedBy .get) none 0) (.start ())).1 := panicked
    have lost := panicked.of_outcome (by decide)
    refine conceals_routeless rfl rfl rfl rfl (unfound_of_fruitless rfl rfl fun outcome came => ?_)
    cases lost.symm.trans came

end Pipeline

end HttpService
