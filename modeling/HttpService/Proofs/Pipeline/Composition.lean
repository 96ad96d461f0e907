import HttpService.Pipeline.Answer
import HttpService.Proofs.Concurrency.Recording

/-!
Contract: chains of middleware as composed functions.

Owns:
- the composition of some middleware with the end of their chain, and **the chain at a place of a
  stack**, which goes on with exactly this composition of what stands behind the place;
- plans: what a middleware does, with the runs of the rest of its chain left open, and how many of
  them there are at most;
- the plans of the guards, which run the rest at most once.

Does not own: which functions are run, and when.
-/

namespace HttpService

variable {World : Type}

/-! ## Chains at a place -/

/-- What some middleware come to, each of them around those behind it, with the end of the chain
innermost. Each is told how many stand behind it. -/
def composed (terminal : Response → Request → Job World (Outcome World)) :
    List (Middleware World) → Response → Request → Job World (Outcome World)
  | [] => terminal
  | next :: rest => next ⟨rest.length, composed terminal rest⟩

namespace Chain

/-- The chain that has come to a place of a stack: it goes on with the middleware that stands
there, which is given the chain at the next place, and with the end behind the last one. -/
def onward (terminal : Response → Request → Job World (Outcome World)) (stack : List (Middleware World))
    (place : Nat) : Chain World :=
  ⟨stack.length - place, fun response request =>
    match _here : stack[place]? with
    | some next => next (onward terminal stack (place + 1)) response request
    | none => terminal response request⟩
termination_by stack.length - place
decreasing_by
  have inside := (List.getElem?_eq_some_iff.mp _here).1
  omega

theorem ofList_eq (terminal : Response → Request → Job World (Outcome World))
    (stack : List (Middleware World)) :
    ofList terminal stack = ⟨stack.length, composed terminal stack⟩ := by
  induction stack with
  | nil => rfl
  | cons next rest inductionHypothesis =>
      rw [ofList, inductionHypothesis]
      rfl

/-- **At every place a chain is the composition of what stands behind it.** -/
theorem onward_eq (terminal : Response → Request → Job World (Outcome World))
    (stack : List (Middleware World)) (place : Nat) :
    onward terminal stack place = ⟨stack.length - place, composed terminal (stack.drop place)⟩ := by
  -- Over what is left of the stack behind the place.
  induction left : stack.length - place generalizing place with
  | zero =>
      have behind : stack.length ≤ place := by omega
      have none : stack[place]? = none := List.getElem?_eq_none behind
      rw [onward, left, List.drop_eq_nil_of_le behind]
      congr 1
      funext response request
      split
      · rename_i found
        rw [none] at found
        cases found
      · rfl
  | succ count inductionHypothesis =>
      have inside : place < stack.length := by omega
      have found : stack[place]? = some stack[place] := List.getElem?_eq_getElem inside
      have further := inductionHypothesis (place + 1) (by omega)
      rw [onward, left, List.drop_eq_getElem_cons inside]
      congr 1
      funext response request
      split
      · rename_i next here
        rw [found] at here
        cases here
        have rest : (stack.drop (place + 1)).length = count := by
          rw [List.length_drop]
          omega
        rw [further, composed, rest]
      · rename_i here
        rw [found] at here
        cases here

end Chain

/-! ## Plans -/

/-- What a middleware does, with the runs of the rest of its chain left open. -/
inductive Plan (World : Type) where
  | done (outcome : Outcome World)
  | panic (payload : Panic)
  | act (change : Nat → World → World) (next : Nat → World → Plan World)
  | sleep (wake : Nat) (next : Plan World)
  /-- Runs the rest of the chain as long as it stays with it, and goes on with how that has ended. -/
  | proceed (response : Response) (request : Request) (stays : List Nat → Bool)
      (next : Job.Upshot (Outcome World) → Plan World)

namespace Plan

/-- What is to be done by a plan, for a rest of the chain. -/
def job (rest : Response → Request → Job World (Outcome World)) : Plan World → Job World (Outcome World)
  | done outcome => .done outcome
  | panic payload => .panic payload
  | act change next => .act change fun now world => (next now world).job rest
  | sleep wake next => .sleep wake (next.job rest)
  | proceed response request stays next =>
      (rest response request).watch stays (fun upshot => (next upshot).job rest) []

/-- On every course the rest of the chain is run at most so often. -/
def AtMost : Nat → Plan World → Prop
  | _, done _ => True
  | _, panic _ => True
  | count, act _ next => ∀ now world, (next now world).AtMost count
  | count, sleep _ next => next.AtMost count
  | 0, proceed .. => False
  | count + 1, proceed _ _ _ next => ∀ upshot, (next upshot).AtMost count

/-- Runs the rest of the chain to its end, and goes on with its outcome. Its panics go through. -/
def await (response : Response) (request : Request) (next : Outcome World → Plan World) : Plan World :=
  proceed response request (fun _ => true) fun
    | .returned outcome => next outcome
    | .panicked payload => panic payload
    -- This does not happen, for it always stays.
    | .abandoned _ => panic ⟨none⟩

/-- Goes on with the rest, and leaves it at that. -/
def pass (response : Response) (request : Request) : Plan World :=
  await response request done

theorem job_pass (rest : Response → Request → Job World (Outcome World)) (response : Response)
    (request : Request) : (pass response request).job rest = rest response request :=
  Job.watch_eq_self (fun _ => rfl) (fun _ => rfl) (rest response request) []

theorem atMost_await {count : Nat} (response : Response) (request : Request)
    {next : Outcome World → Plan World} (further : ∀ outcome, (next outcome).AtMost count) :
    (await response request next).AtMost (count + 1) := by
  intro upshot
  cases upshot with
  | returned outcome => exact further outcome
  | panicked payload => cases count <;> trivial
  | abandoned rests => cases count <;> trivial

theorem atMost_pass (response : Response) (request : Request) :
    (pass response request : Plan World).AtMost 1 :=
  atMost_await response request fun _ => trivial

/-- The plan of what never runs the rest. -/
def ofJob : Job World (Outcome World) → Plan World
  | .done outcome => done outcome
  | .panic payload => panic payload
  | .act change next => act change fun now world => ofJob (next now world)
  | .sleep wake next => sleep wake (ofJob next)

theorem job_ofJob (rest : Response → Request → Job World (Outcome World))
    (own : Job World (Outcome World)) :
    (ofJob own).job rest = own := by
  induction own with
  | done outcome => rfl
  | panic payload => rfl
  | act change next inductionHypothesis =>
      exact congrArg (Job.act change) (funext fun now => funext fun world =>
        inductionHypothesis now world)
  | sleep wake next inductionHypothesis => exact congrArg (Job.sleep wake) inductionHypothesis

theorem atMost_ofJob (count : Nat) (own : Job World (Outcome World)) : (ofJob own).AtMost count := by
  induction own with
  | done outcome => cases count <;> trivial
  | panic payload => cases count <;> trivial
  | act change next inductionHypothesis =>
      cases count <;> exact inductionHypothesis
  | sleep wake next inductionHypothesis =>
      cases count <;> exact inductionHypothesis

end Plan

/-- A middleware by its plans: for how many middleware stand behind it, and for what it is given. -/
abbrev Planned (World : Type) := Nat → Response → Request → Plan World

namespace Planned

/-- The middleware that follows its plans. -/
def middleware (planned : Planned World) : Middleware World :=
  fun chain response request => (planned chain.remaining response request).job chain.proceed

/-- Whatever it is given, the middleware runs the rest of its chain at most once. -/
def Single (planned : Planned World) : Prop :=
  ∀ remaining response request, (planned remaining response request).AtMost 1

end Planned

/-! ## The plans of the guards -/

namespace Guard

def singletonsPlan (names : List String) : Planned World :=
  fun _ response request =>
    match firstRepeatedHeader? names request.headers with
    | some name =>
        .done ⟨.error (refusal ("Header " ++ name ++ " cannot appear more than once")),
          response, request⟩
    | none => .pass response request

def hostPlan (entries : List String) : Planned World :=
  fun _ response request =>
    match checkHost entries request.headers with
    | .error fault => .done ⟨.error fault, response, request⟩
    | .ok host => .pass response { request with host := some host }

def identifyPlan (source : IdSource World) (header : String) : Planned World :=
  fun _ response request =>
    .act (fun now world => (source request now world).2) fun now world =>
      match (source request now world).1 with
      | .ok id => .pass (response.setHeader header id) { request with id := some id }
      | .error payload => .panic payload

theorem middleware_singletonsPlan (names : List String) :
    (singletonsPlan names : Planned World).middleware = singletons names := by
  funext chain response request
  unfold Planned.middleware singletonsPlan singletons
  cases firstRepeatedHeader? names request.headers with
  | some name => rfl
  | none => exact Plan.job_pass _ _ _

theorem middleware_hostPlan (entries : List String) :
    (hostPlan entries : Planned World).middleware = host entries := by
  funext chain response request
  unfold Planned.middleware hostPlan host
  cases checkHost entries request.headers with
  | error fault => rfl
  | ok host => exact Plan.job_pass _ _ _

theorem middleware_identifyPlan (source : IdSource World) (header : String) :
    (identifyPlan source header).middleware = identify source header := by
  funext chain response request
  unfold Planned.middleware identifyPlan identify Job.ofAction
  simp only [Plan.job, Job.bind]
  congr 1
  funext now world
  cases (source request now world).1 with
  | ok id => exact Plan.job_pass _ _ _
  | error payload => rfl

theorem single_singletonsPlan (names : List String) :
    (singletonsPlan names : Planned World).Single := by
  intro remaining response request
  unfold singletonsPlan
  split
  · trivial
  · exact Plan.atMost_pass _ _

theorem single_hostPlan (entries : List String) : (hostPlan entries : Planned World).Single := by
  intro remaining response request
  unfold hostPlan
  split
  · trivial
  · exact Plan.atMost_pass _ _

theorem single_identifyPlan (source : IdSource World) (header : String) :
    (identifyPlan source header).Single := by
  intro remaining response request now world
  simp only
  split
  · exact Plan.atMost_pass _ _
  · trivial

end Guard

/-- The plans of the guards that a configuration asks for. -/
def guardPlans (config : Config World) : List (Planned World) :=
  [Guard.singletonsPlan (Guard.singletonsWith config.singletonHeaders),
    Guard.hostPlan config.allowedHosts] ++
      match config.idSource with
      | some source => [Guard.identifyPlan source config.idHeader]
      | none => []

theorem middleware_guardPlans (config : Config World) :
    (guardPlans config).map Planned.middleware = guards config := by
  unfold guardPlans guards
  rw [List.map_append, List.map_cons, List.map_singleton, Guard.middleware_singletonsPlan,
    Guard.middleware_hostPlan]
  cases config.idSource with
  | none => rfl
  | some source =>
      show _ ++ [(Guard.identifyPlan source config.idHeader).middleware] = _
      rw [Guard.middleware_identifyPlan]

/-- All guards run the rest of the chain at most once. -/
theorem single_guardPlans (config : Config World) :
    ∀ planned ∈ guardPlans config, Planned.Single planned := by
  intro planned member
  unfold guardPlans at member
  rcases List.mem_append.mp member with always | configured
  · rcases List.mem_cons.mp always with rfl | second
    · exact Guard.single_singletonsPlan _
    · rw [List.mem_singleton.mp second]
      exact Guard.single_hostPlan _
  · cases asked : config.idSource with
    | none =>
        rw [asked] at configured
        cases configured
    | some source =>
        rw [asked] at configured
        rw [List.mem_singleton.mp configured]
        exact Guard.single_identifyPlan _ _

end HttpService
