import HttpService.Proofs.Concurrency.Guarantee
import HttpService.Proofs.Pipeline.Answering
import HttpService.Proofs.Pipeline.Layers

/-!
Contract: what chains keep of what they are given.

Owns:
- relations between what a chain is given and what it comes to, and middleware that keep them
  whenever the rest of the chain does;
- **a chain keeps what its end and its middleware keep**;
- that the guards and the dispatch keep the method of the request.

Does not own: what the middleware of the application keep.
-/

namespace HttpService

variable {World : Type}

/-- Every outcome of the chain is related to what the chain is given. -/
def Chain.Keeps (kept : Response → Request → Outcome World → Prop) (chain : Chain World) : Prop :=
  ∀ response request, (chain.proceed response request).Ensures (kept response request)

/-- In front of every chain that keeps a relation, the middleware keeps it too. -/
def Middleware.Keeps (kept : Response → Request → Outcome World → Prop)
    (middleware : Middleware World) : Prop :=
  ∀ chain : Chain World, chain.Keeps kept →
    ∀ response request, (middleware chain response request).Ensures (kept response request)

/-- **A chain keeps what its end and its middleware keep.** -/
theorem Chain.keeps_ofList {kept : Response → Request → Outcome World → Prop}
    {terminal : Response → Request → Job World (Outcome World)} {middleware : List (Middleware World)}
    (ending : ∀ response request, (terminal response request).Ensures (kept response request))
    (each : ∀ next ∈ middleware, Middleware.Keeps kept next) :
    (Chain.ofList terminal middleware).Keeps kept := by
  induction middleware with
  | nil => exact ending
  | cons next rest inductionHypothesis =>
      have further := inductionHypothesis fun later member =>
        each later (List.mem_cons_of_mem next member)
      exact each next List.mem_cons_self _ further

/-! ## The method of the request -/

/-- The request that is left has the method of the one that was given. -/
def keepsMethod (_ : Response) (request : Request) (outcome : Outcome World) : Prop :=
  outcome.request.method = request.method

namespace Guard

theorem singletons_keeps_method (names : List String) :
    Middleware.Keeps keepsMethod (singletons names : Middleware World) := by
  intro chain keeps response request
  unfold singletons
  split
  · exact rfl
  · exact keeps response request

theorem host_keeps_method (entries : List String) :
    Middleware.Keeps keepsMethod (host entries : Middleware World) := by
  intro chain keeps response request
  unfold host
  split
  · exact rfl
  · rename_i name _
    exact keeps response { request with host := some name }

theorem identify_keeps_method (source : IdSource World) (header : String) :
    Middleware.Keeps keepsMethod (identify source header) := by
  intro chain keeps response request
  exact .ofAction_bind (source request) fun id =>
    keeps (response.setHeader header id) { request with id := some id }

end Guard

theorem guards_keep_method (config : Config World) :
    ∀ next ∈ guards config, Middleware.Keeps keepsMethod next :=
  forall_mem_guards Guard.singletons_keeps_method Guard.host_keeps_method fun source _ =>
    Guard.identify_keeps_method source config.idHeader

theorem Terminal.dispatch_keeps_method (terminal : Terminal World) (response : Response)
    (request : Request) :
    (terminal.dispatch response request).Ensures (keepsMethod response request) := by
  have handled : ∀ endpoint : Endpoint World,
      (terminal.runHandler endpoint response request).Ensures (keepsMethod response request) := by
    intro endpoint
    unfold runHandler
    split
    · exact rfl
    · rename_i handler _
      have anyEnd : (handler response request).Ensures fun _ => True := Job.ensures_true _
      refine anyEnd.bind ?_
      rintro ⟨verdict, left⟩ _
      cases verdict with
      | error fault => exact rfl
      | ok _ => exact rfl
  unfold dispatch
  split
  · exact rfl
  · split
    · exact rfl
    · split
      · exact rfl
      · split
        · exact rfl
        · exact handled _

namespace Pipeline

/-- If no middleware of the application changes the method of the request, no chain does. -/
theorem chainJob_keeps_method {pipeline : Pipeline World} {own : List (Middleware World)}
    (stack : pipeline.middleware = guards pipeline.config ++ own)
    (keeps : ∀ next ∈ own, Middleware.Keeps keepsMethod next)
    (endpoint : Option (Endpoint World)) (request : Request) :
    (pipeline.chainJob endpoint request).Ensures fun outcome =>
      outcome.request.method = request.method := by
  have each : ∀ next ∈ pipeline.middleware, Middleware.Keeps keepsMethod next := by
    rw [stack]
    exact List.forall_mem_append.mpr ⟨guards_keep_method pipeline.config, keeps⟩
  exact Chain.keeps_ofList (pipeline.terminal endpoint).dispatch_keeps_method each _ request

end Pipeline

end HttpService
