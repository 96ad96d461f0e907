import HttpService.Service

/-!
Contract: the layers of a service, which its requests go through.

Owns:
- what has to be shown of each kind of guard for all guards of a configuration to have it;
- **the layers of every service are the guards that its configuration asks for, and behind them
  what the application has registered**, in the order of the registrations.

Does not own: what the layers do.
-/

namespace HttpService

variable {World : Type}

/-- All guards of a configuration have what each kind of guard has. -/
theorem forall_mem_guards {config : Config World} {holds : Middleware World → Prop}
    (singletons : ∀ names, holds (Guard.singletons names))
    (host : ∀ entries, holds (Guard.host entries))
    (identify : ∀ source, config.idSource = some source →
      holds (Guard.identify source config.idHeader)) :
    ∀ next ∈ guards config, holds next := by
  intro next member
  unfold guards at member
  rcases List.mem_append.mp member with always | configured
  · rcases List.mem_cons.mp always with rfl | second
    · exact singletons _
    · rw [List.mem_singleton.mp second]
      exact host _
  · cases asked : config.idSource with
    | none =>
        rw [asked] at configured
        cases configured
    | some source =>
        rw [asked] at configured
        rw [List.mem_singleton.mp configured]
        exact identify source asked

namespace Service

/-- A service that has been set up, with the middleware that the application has registered. What
is registered after the start is refused. -/
inductive Built : Service World → List (Middleware World) → Prop where
  | create {config : Config World} {files : Files} {service : Service World}
      (created : (create config files).1 = .ok service) : Built service []
  | addRoute {service : Service World} {own : List (Middleware World)} (built : Built service own)
      (pattern : String) (endpoint : Endpoint World) :
      Built (service.addRoute pattern endpoint).2.1 own
  | addRoutesUnder {service : Service World} {own : List (Middleware World)}
      (built : Built service own) (base : String) (routes : List (String × Endpoint World)) :
      Built (service.addRoutesUnder base routes).2.1 own
  | addMiddleware {service : Service World} {own : List (Middleware World)}
      (built : Built service own) (middleware : Middleware World) :
      Built (service.addMiddleware middleware).2.1
        (if service.started then own else own ++ [middleware])
  | addResponder {service : Service World} {own : List (Middleware World)}
      (built : Built service own) (status : Status) (responder : Responder World) :
      Built (service.addResponder status responder).2.1 own
  | start {service : Service World} {own : List (Middleware World)} (built : Built service own)
      (bound : Except TransferError Unit) : Built (service.start bound).2.1 own

/-- What holds of the pipeline of a service, and is kept by a change of it, holds after the
registration that makes the change. -/
theorem pipeline_register {service : Service World} {holds : Pipeline World → Prop}
    (now : holds service.pipeline) (what : String)
    {change : Pipeline World → Option RegistrationError × Pipeline World × List LogRecord}
    (keeps : ∀ pipeline, holds pipeline → holds (change pipeline).2.1) :
    holds (service.register what change).2.1.pipeline := by
  unfold register
  split
  · exact now
  · exact keeps service.pipeline now

theorem pipeline_start (service : Service World) (bound : Except TransferError Unit) :
    (service.start bound).2.1.pipeline = service.pipeline := by
  unfold start
  split
  · rfl
  · split
    · rfl
    · rfl

/-- The guards that the configuration asks for, and some middleware behind them. -/
def Layered (own : List (Middleware World)) (pipeline : Pipeline World) : Prop :=
  pipeline.middleware = guards pipeline.config ++ own

theorem layered_create {config : Config World} {files : Files} {service : Service World}
    (created : (create config files).1 = .ok service) : Layered [] service.pipeline := by
  unfold create at created
  split at created
  · cases created
  · generalize loadRewrites config files = loading at created
    obtain ⟨loaded, reports⟩ := loading
    cases loaded with
    | error error => cases created
    | ok rewrites =>
        cases created
        exact (List.append_nil _).symm

theorem layered_addMiddleware {service : Service World} {own : List (Middleware World)}
    (layered : Layered own service.pipeline) (middleware : Middleware World) :
    Layered (if service.started then own else own ++ [middleware])
      (service.addMiddleware middleware).2.1.pipeline := by
  unfold addMiddleware register
  split
  · exact layered
  · show service.pipeline.middleware ++ [middleware] = _ ++ (own ++ [middleware])
    rw [layered, List.append_assoc]

/-- **The layers of a service.** In front of what the application has registered, every service
has the guards that its configuration asks for. -/
theorem Built.layered {service : Service World} {own : List (Middleware World)}
    (built : service.Built own) : Layered own service.pipeline := by
  induction built with
  | create created => exact layered_create created
  | addRoute _ pattern endpoint layered =>
      refine pipeline_register layered "routes" ?_
      intro pipeline kept
      split
      · exact kept
      · exact kept
  | addRoutesUnder _ base routes layered =>
      exact pipeline_register layered "routes" fun pipeline kept => kept
  | addMiddleware _ middleware layered => exact layered_addMiddleware layered middleware
  | addResponder _ status responder layered =>
      refine pipeline_register layered "error responders" ?_
      intro pipeline kept
      split
      · exact kept
      · exact kept
  | start _ _ layered =>
      rw [pipeline_start]
      exact layered

end Service

end HttpService
