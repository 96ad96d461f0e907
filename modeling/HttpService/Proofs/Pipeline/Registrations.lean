import HttpService.Proofs.Concurrency.Startup
import HttpService.Proofs.Routing.Registering

/-!
Contract: registrations that fail.

Owns:
- the routes that can be registered under a namespace, and what a sequence of routes with one that
  cannot comes to;
- what is done with a service, step by step, and what each step is answered;
- which registrations fail, and what each of them leaves registered;
- **that a registration that fails leaves no trace**, but for the routes in front of one that fails.

Does not own: what successful registrations change.
-/

namespace HttpService

/-! ## Routes that fail -/

namespace Routing.Router

variable {α : Type}

/-- A route can be registered under a namespace if it is a pattern, and no capture of either has the
name of another one. -/
theorem exists_resolve_iff {base : Pattern} {raw : String} :
    (∃ resolved, resolve base raw = .ok resolved) ↔
      ∃ written, Pattern.ofRoute raw = .ok written ∧
        (base.captureNames ++ written.captureNames).Nodup := by
  constructor
  · rintro ⟨resolved, found⟩
    obtain ⟨written, compiled, rfl, distinct⟩ := of_resolve found
    refine ⟨written, compiled, ?_⟩
    unfold Pattern.captureNames at distinct ⊢
    rw [← List.filterMap_append]
    exact distinct
  · rintro ⟨written, compiled, distinct⟩
    refine ⟨⟨base.segments ++ written.segments⟩, ?_⟩
    unfold Pattern.captureNames at distinct
    rw [← List.filterMap_append] at distinct
    unfold resolve
    rw [compiled]
    exact Pattern.checkCaptures_eq_ok_iff.mpr ⟨rfl, distinct⟩

theorem exists_resolve_error_iff {base : Pattern} {raw : String} :
    (∃ error, resolve base raw = .error error) ↔
      ∀ written, Pattern.ofRoute raw = .ok written →
        ¬(base.captureNames ++ written.captureNames).Nodup := by
  have resolves := @exists_resolve_iff base raw
  cases found : resolve base raw with
  | error error =>
      refine iff_of_true ⟨error, rfl⟩ fun written compiled distinct => ?_
      obtain ⟨resolved, same⟩ := resolves.mpr ⟨written, compiled, distinct⟩
      cases found.symm.trans same
  | ok resolved =>
      obtain ⟨written, compiled, distinct⟩ := resolves.mp ⟨resolved, found⟩
      exact iff_of_false (fun fails => nomatch fails) fun never => never written compiled distinct

/-- Routes that can all be registered under a namespace. -/
def Resolves (base : Pattern) (routes : List (String × α)) : Prop :=
  ∀ route ∈ routes, ∃ resolved, resolve base route.1 = .ok resolved

variable {base : Pattern} {router : Router α} {front : List (String × α)}

theorem addEach_append (resolves : Resolves base front) (back : List (String × α)) :
    addEach base router (front ++ back) = addEach base (addEach base router front).2 back := by
  induction front generalizing router with
  | nil => rfl
  | cons route rest inductionHypothesis =>
      obtain ⟨raw, value⟩ := route
      obtain ⟨resolved, found⟩ := resolves (raw, value) List.mem_cons_self
      rw [List.cons_append, addEach_cons, addEach_cons, found]
      exact inductionHypothesis fun later member => resolves later (List.mem_cons_of_mem _ member)

theorem addEach_of_resolves (resolves : Resolves base front) :
    (addEach base router front).1 = none := by
  rw [← List.append_nil front, addEach_append resolves]
  rfl

/-- Routes are registered up to the first one that cannot be. -/
theorem addEach_of_error (resolves : Resolves base front) {raw : String} {error : PatternError}
    (fails : resolve base raw = .error error) (value : α) (back : List (String × α)) :
    addEach base router (front ++ (raw, value) :: back) =
      (some error, (addEach base router front).2) := by
  rw [addEach_append resolves, addEach_cons, fails]

theorem exists_of_addEach {routes : List (String × α)} {error : PatternError}
    (fails : (addEach base router routes).1 = some error) :
    ∃ front raw value back, routes = front ++ (raw, value) :: back ∧ Resolves base front ∧
      resolve base raw = .error error := by
  induction routes generalizing router with
  | nil => cases fails
  | cons route rest inductionHypothesis =>
      obtain ⟨raw, value⟩ := route
      rw [addEach_cons] at fails
      cases found : resolve base raw with
      | error other =>
          rw [found] at fails
          cases fails
          exact ⟨[], raw, value, rest, rfl, List.forall_mem_nil _, found⟩
      | ok resolved =>
          rw [found] at fails
          obtain ⟨front, failing, last, back, rfl, resolves, fails⟩ := inductionHypothesis fails
          refine ⟨(raw, value) :: front, failing, last, back, rfl, ?_, fails⟩
          exact List.forall_mem_cons.mpr ⟨⟨resolved, found⟩, resolves⟩

end Routing.Router

open Routing

variable {World : Type}

/-! ## What is done with a service -/

/-- What is done with a service. -/
inductive ServiceEvent (World : Type) where
  | register (registrant : Registrant World)
  /-- The service starts, with what it gets when it asks for its address. -/
  | start (bound : Except TransferError Unit)
  | request (raw : Bytes) (peer : Option Network.SocketAddress)
  | connection (arrivals : List Arrival) (sink : Sink) (peer : Option Network.SocketAddress)
  /-- Whatever else happens to the machine. -/
  | elapse (change : Engine World → Engine World)

/-- What comes of it, with what is reported. -/
inductive ServiceAnswer where
  | registered (error : Option RegistrationError) (reports : List LogRecord)
  | started (result : Except Panic (Except ServiceError Unit)) (reports : List LogRecord)
  | answered (response : Except Panic Response)
  | closed (closing : Closing)
  | elapsed

/-- A service and the machine that it runs on. -/
structure ServiceState (World : Type) where
  service : Service World
  engine : Engine World

namespace ServiceState

def take (state : ServiceState World) : ServiceEvent World → ServiceAnswer × ServiceState World
  | .register registrant =>
      let (error, service, reports) := registrant.register state.service
      (.registered error reports, { state with service := service })
  | .start bound =>
      let (result, service, reports) := state.service.start bound
      (.started result reports, { state with service := service })
  | .request raw peer =>
      let (response, engine) := state.service.pipeline.handle raw peer state.engine
      (.answered response, { state with engine := engine })
  | .connection arrivals sink peer =>
      let (closing, engine) := state.service.pipeline.serve arrivals sink peer state.engine
      (.closed closing, { state with engine := engine })
  | .elapse change => (.elapsed, { state with engine := change state.engine })

theorem take_register (state : ServiceState World) (registrant : Registrant World) :
    state.take (.register registrant) =
      (.registered (registrant.register state.service).1 (registrant.register state.service).2.2,
        { state with service := (registrant.register state.service).2.1 }) :=
  rfl

/-- One event after the other: what each of them is answered, and the state after the last one. -/
def run (state : ServiceState World) :
    List (ServiceEvent World) → List ServiceAnswer × ServiceState World
  | [] => ([], state)
  | event :: rest =>
      ((state.take event).1 :: ((state.take event).2.run rest).1, ((state.take event).2.run rest).2)

theorem run_append (before after : List (ServiceEvent World)) (state : ServiceState World) :
    state.run (before ++ after) =
      ((state.run before).1 ++ ((state.run before).2.run after).1,
        ((state.run before).2.run after).2) := by
  induction before generalizing state with
  | nil => rfl
  | cons event rest inductionHypothesis =>
      rw [List.cons_append, run, inductionHypothesis]
      rfl

end ServiceState

/-! ## Registrations that fail -/

namespace Registrant

/-- The registrations that fail, the error of each of them, and what is registered instead: nothing,
but for the routes in front of one that fails. -/
inductive Leaves (service : Service World) :
    Registrant World → RegistrationError → List (Registrant World) → Prop where
  | late (started : service.started = true) (registrant : Registrant World) :
      Leaves service registrant (.afterStart registrant.what) []
  | route (early : service.started = false) {pattern : String} {error : PatternError}
      (fails : Router.resolve service.pipeline.router.base pattern = .error error)
      (endpoint : Endpoint World) :
      Leaves service (.route pattern endpoint) (.invalidRoute pattern error) []
  | base (early : service.started = false) {base : String} {error : PatternError}
      (fails : Router.resolve service.pipeline.router.base base = .error error)
      (routes : List (String × Endpoint World)) :
      Leaves service (.routesUnder base routes) (.invalidNamespace base error) []
  | batch (early : service.started = false) {base : String} {lead : Pattern}
      (opened : Router.resolve service.pipeline.router.base base = .ok lead)
      {front : List (String × Endpoint World)} (resolves : Router.Resolves lead front)
      {pattern : String} {error : PatternError} (fails : Router.resolve lead pattern = .error error)
      (endpoint : Endpoint World) (back : List (String × Endpoint World)) :
      Leaves service (.routesUnder base (front ++ (pattern, endpoint) :: back))
        (.invalidNamespace base error) [.routesUnder base front]
  | responder (early : service.started = false) {status : Status}
      (ordinary : status.isError = false) (responder : Responder World) :
      Leaves service (.responder status responder) (.noErrorStatus status) []

/-! ### What each registration comes to -/

section

variable {pipeline : Pipeline World}

theorem register_route {pattern : String} (endpoint : Endpoint World) :
    (route pattern endpoint).register ⟨pipeline, false⟩ =
      match Router.resolve pipeline.router.base pattern with
      | .error error => (some (.invalidRoute pattern error), ⟨pipeline, false⟩, [])
      | .ok resolved =>
          (none, ⟨{ pipeline with router := pipeline.router.insert resolved endpoint }, false⟩,
            if (pipeline.router.routes.insert resolved endpoint).1.isSome then
              [⟨.warn, "Route " ++ pattern ++ " was registered twice, keeping the latest handler"⟩]
            else []) := by
  unfold register Service.addRoute Service.register Router.add
  simp only
  cases Router.resolve pipeline.router.base pattern with
  | error error => rfl
  | ok resolved => rfl

theorem register_routesUnder (base : String) (routes : List (String × Endpoint World)) :
    (routesUnder base routes).register ⟨pipeline, false⟩ =
      ((pipeline.router.addUnder base routes).1.map (.invalidNamespace base),
        ⟨{ pipeline with router := (pipeline.router.addUnder base routes).2 }, false⟩, []) :=
  rfl

theorem register_responder (status : Status) (respond : Responder World) :
    (responder status respond).register ⟨pipeline, false⟩ =
      if status.isError then
        (none, ⟨{ pipeline with responders := pipeline.responders.insert status respond }, false⟩,
          [])
      else (some (.noErrorStatus status), ⟨pipeline, false⟩, []) := by
  show Service.addResponder ⟨pipeline, false⟩ status respond = _
  unfold Service.addResponder Service.register
  cases status.isError with
  | true => rfl
  | false => rfl

end

variable {service : Service World} {registrant : Registrant World} {error : RegistrationError}
  {instead : List (Registrant World)}

/-- Nothing else fails. -/
theorem exists_leaves (fails : (registrant.register service).1 = some error) :
    ∃ instead, Leaves service registrant error instead := by
  obtain ⟨pipeline, started⟩ := service
  cases started with
  | true =>
      rw [register_of_started] at fails
      cases fails
      exact ⟨[], .late rfl registrant⟩
  | false =>
      cases registrant with
      | route pattern endpoint =>
          rw [register_route] at fails
          cases found : Router.resolve pipeline.router.base pattern with
          | error invalid =>
              rw [found] at fails
              cases fails
              exact ⟨[], .route rfl found endpoint⟩
          | ok resolved =>
              rw [found] at fails
              cases fails
      | routesUnder base routes =>
          rw [register_routesUnder] at fails
          obtain ⟨invalid, ended, rfl⟩ := Option.map_eq_some_iff.mp fails
          unfold Router.addUnder at ended
          cases found : Router.resolve pipeline.router.base base with
          | error other =>
              rw [found] at ended
              cases ended
              exact ⟨[], .base rfl found routes⟩
          | ok lead =>
              rw [found] at ended
              obtain ⟨front, pattern, endpoint, back, rfl, resolves, failing⟩ :=
                Router.exists_of_addEach ended
              exact ⟨[.routesUnder base front], .batch rfl found resolves failing endpoint back⟩
      | middleware next => cases fails
      | responder status respond =>
          rw [register_responder] at fails
          cases ordinary : status.isError with
          | true =>
              rw [ordinary] at fails
              cases fails
          | false =>
              rw [ordinary] at fails
              cases fails
              exact ⟨[], .responder rfl ordinary respond⟩

/-- A registration that fails is answered with its error and without a report, and leaves what is
registered instead of it without an error and without a report. -/
theorem Leaves.run (leaves : Leaves service registrant error instead) (engine : Engine World) :
    ∃ left, ServiceState.take ⟨service, engine⟩ (.register registrant) =
        (.registered (some error) [], left) ∧
      ServiceState.run ⟨service, engine⟩ (instead.map .register) =
        (instead.map fun _ => .registered none [], left) := by
  obtain ⟨pipeline, started⟩ := service
  rw [ServiceState.take_register]
  cases leaves with
  | late late registrant =>
      cases late
      rw [register_of_started]
      exact ⟨_, rfl, rfl⟩
  | route early fails endpoint =>
      cases early
      rw [register_route, fails]
      exact ⟨_, rfl, rfl⟩
  | base early fails routes =>
      cases early
      rw [register_routesUnder]
      unfold Router.addUnder
      rw [fails]
      exact ⟨_, rfl, rfl⟩
  | batch early opened resolves fails endpoint back =>
      cases early
      rename_i base lead front pattern invalid
      have whole : pipeline.router.addUnder base (front ++ (pattern, endpoint) :: back) =
          (some invalid, (pipeline.router.addEach lead front).2) := by
        unfold Router.addUnder
        rw [opened]
        exact Router.addEach_of_error resolves fails endpoint back
      have part : pipeline.router.addUnder base front =
          (none, (pipeline.router.addEach lead front).2) := by
        unfold Router.addUnder
        have accepted : (Router.addEach lead pipeline.router front).1 = none :=
          Router.addEach_of_resolves resolves
        rw [opened, ← accepted]
      rw [register_routesUnder, whole, List.map_singleton, List.map_singleton, ServiceState.run,
        ServiceState.take_register, register_routesUnder, part]
      exact ⟨_, rfl, rfl⟩
  | responder early ordinary respond =>
      cases early
      rw [register_responder, ordinary]
      exact ⟨_, rfl, rfl⟩

end Registrant

/-- **A registration that fails leaves no trace.** Whatever has been done with a service before: a
registration fails if it comes after the start, or is of a pattern that is invalid or repeats the
name of a capture, or of a responder for a status that is no error, and then only. Whatever is done
afterwards is answered, and leaves the service, as if the registration had never been made; where it
was of routes one of which fails under a namespace, as if the routes in front of that one had been
registered alone. -/
theorem ServiceState.run_of_failed (state : ServiceState World)
    (before : List (ServiceEvent World)) (registrant : Registrant World)
    (error : RegistrationError) :
    ((registrant.register (state.run before).2.service).1 = some error ↔
        ∃ instead, Registrant.Leaves (state.run before).2.service registrant error instead) ∧
      (∀ instead, Registrant.Leaves (state.run before).2.service registrant error instead →
        ∀ after, ∃ answers left,
          state.run (before ++ .register registrant :: after) =
              ((state.run before).1 ++ .registered (some error) [] :: answers, left) ∧
            state.run (before ++ instead.map .register ++ after) =
              ((state.run before).1 ++ instead.map (fun _ => .registered none []) ++ answers,
                left)) ∧
      ∀ base raw, (∃ invalid, Router.resolve base raw = .error invalid) ↔
        ∀ written, Pattern.ofRoute raw = .ok written →
          ¬(base.captureNames ++ written.captureNames).Nodup := by
  refine ⟨⟨Registrant.exists_leaves, ?_⟩, ?_, ?_⟩
  · rintro ⟨instead, leaves⟩
    obtain ⟨left, failed, -⟩ := leaves.run (state.run before).2.engine
    rw [take_register] at failed
    exact (ServiceAnswer.registered.inj (Prod.mk.inj failed).1).1
  · intro instead leaves after
    obtain ⟨left, failed, kept⟩ := leaves.run (state.run before).2.engine
    refine ⟨(left.run after).1, (left.run after).2, ?_, ?_⟩
    · rw [run_append, run, failed]
    · rw [run_append, run_append, kept]
  · exact fun base raw => Router.exists_resolve_error_iff

/-- A service that nothing is registered with, on a fresh machine. -/
def ServiceState.unused : ServiceState Unit :=
  ⟨⟨⟨.default, .empty, .empty, [], .empty⟩, false⟩, .start ()⟩

/-- The second of three routes under a namespace has two captures of one name. -/
theorem ServiceState.run_of_second_failed (endpoint : Endpoint Unit) (raw : Bytes) :
    ∃ answers left,
      unused.run [.register (.route "/a" endpoint),
          .register (.routesUnder "/n" [("/b", endpoint), ("/:x/:x", endpoint), ("/c", endpoint)]),
          .request raw none, .start (.ok ())] =
        ([.registered none [],
          .registered (some (.invalidNamespace "/n" (.duplicateCapture "x" "/:x/:x"))) []] ++
            answers, left) ∧
      unused.run [.register (.route "/a" endpoint),
          .register (.routesUnder "/n" [("/b", endpoint)]), .request raw none, .start (.ok ())] =
        ([.registered none [], .registered none []] ++ answers, left) := by
  have leaves : Registrant.Leaves (unused.run [.register (.route "/a" endpoint)]).2.service
      (.routesUnder "/n" [("/b", endpoint), ("/:x/:x", endpoint), ("/c", endpoint)])
      (.invalidNamespace "/n" (.duplicateCapture "x" "/:x/:x"))
      [.routesUnder "/n" [("/b", endpoint)]] := by
    have resolves : Router.Resolves ⟨[.literal "n"]⟩ [("/b", endpoint)] := by
      intro route member
      rw [List.mem_singleton.mp member]
      show ∃ resolved, Router.resolve ⟨[.literal "n"]⟩ "/b" = .ok resolved
      exact ⟨⟨[.literal "n", .literal "b"]⟩, rfl⟩
    exact .batch rfl rfl resolves rfl endpoint [("/c", endpoint)]
  exact (run_of_failed unused [.register (.route "/a" endpoint)] _ _).2.1 _ leaves
    [.request raw none, .start (.ok ())]

end HttpService
