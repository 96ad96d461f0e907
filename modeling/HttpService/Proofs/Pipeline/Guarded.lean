import HttpService.Proofs.Pipeline.Answering

/-!
Contract: chains whose guards let a request pass.

Owns:
- requests that pass the checks of the guards, and their host;
- what a chain is to do once the checks are passed, with and without a source of identifiers.

Does not own: what the middleware of the application and the handlers do.
-/

namespace HttpService

variable {World : Type}

/-- The header fields pass the checks of the guards, which find a host in them. -/
structure Passes (config : Config World) (headers : Headers) (host : String) : Prop where
  single : Guard.firstRepeatedHeader? (Guard.singletonsWith config.singletonHeaders) headers = none
  allowed : (Guard.checkHost config.allowedHosts headers : Except (Fault World) String) = .ok host

namespace Pipeline

/-- The part of a chain that is behind the guards. -/
def inner (pipeline : Pipeline World) (own : List (Middleware World))
    (endpoint : Option (Endpoint World)) : Chain World :=
  .ofList (pipeline.terminal endpoint).dispatch own

/-- The request that the source of identifiers is asked about. -/
def asked (routed : Request) (host : String) : Request :=
  { routed with host := some host }

/-- What the chain does with an identifier: the part behind the guards, on a response that carries
the identifier. -/
def identified (pipeline : Pipeline World) (own : List (Middleware World))
    (endpoint : Option (Endpoint World)) (routed : Request) (host id : String) :
    Job World (Outcome World) :=
  (pipeline.inner own endpoint).proceed
    ((Response.forMethod routed.method).setHeader pipeline.config.idHeader id)
    { asked routed host with id := some id }

section

variable {pipeline : Pipeline World} {own : List (Middleware World)} {request : Request}
  {host : String}

theorem proceed_passes (passes : Passes pipeline.config request.headers host)
    (rest : List (Middleware World)) (endpoint : Option (Endpoint World)) (response : Response) :
    (Chain.ofList (pipeline.terminal endpoint).dispatch
      ([Guard.singletons (Guard.singletonsWith pipeline.config.singletonHeaders),
        Guard.host pipeline.config.allowedHosts] ++ rest)).proceed response request =
      (pipeline.inner rest endpoint).proceed response { request with host := some host } := by
  show Guard.singletons _ _ response request = _
  unfold Guard.singletons
  rw [passes.single]
  show Guard.host _ _ response request = _
  unfold Guard.host
  rw [passes.allowed]
  rfl

/-- Without a source of identifiers, the chain goes on as the application has it. -/
theorem chainJob_passes (stack : pipeline.middleware = guards pipeline.config ++ own)
    (unnamed : pipeline.config.idSource = none)
    (passes : Passes pipeline.config request.headers host)
    (endpoint : Option (Endpoint World)) :
    pipeline.chainJob endpoint request =
      (pipeline.inner own endpoint).proceed (.forMethod request.method)
        { request with host := some host } := by
  unfold chainJob chain
  rw [stack]
  unfold guards
  rw [unnamed, List.append_assoc]
  exact proceed_passes passes own endpoint _

/-- With one, the chain first asks it for an identifier. -/
theorem chainJob_identified (stack : pipeline.middleware = guards pipeline.config ++ own)
    {source : Guard.IdSource World} (configured : pipeline.config.idSource = some source)
    (passes : Passes pipeline.config request.headers host)
    (endpoint : Option (Endpoint World)) :
    pipeline.chainJob endpoint request =
      (Job.ofAction (source (asked request host))).bind fun id =>
        pipeline.identified own endpoint request host id := by
  unfold chainJob chain
  rw [stack]
  unfold guards
  rw [configured, List.append_assoc, proceed_passes passes]
  rfl

end

end Pipeline

end HttpService
