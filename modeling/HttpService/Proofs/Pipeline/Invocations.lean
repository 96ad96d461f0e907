import Mathlib.Data.List.Chain
import HttpService.Proofs.Pipeline.Composition
import HttpService.Service

/-!
Contract: which functions of a chain are run, and when.

Owns:
- a journal of a chain: when a function is entered, what has become of the rest of the chain that
  it has run, and what it has returned; the chain that keeps it does all else as before;
- the journals of a function with those behind it, one case per step;
- **the functions of a chain are entered in order, each at most once, and what one of them returns
  is what the one in front of it goes on with**, if none runs the rest more than once.

Does not own: what the functions do otherwise.
-/

namespace HttpService

variable {World : Type}

/-! ## The journal -/

/-- What happens at the places of a chain. The end of the chain stands behind all middleware. -/
inductive Event (World : Type) where
  | entered (place : Nat)
  /-- The function at a place goes on after it has run the rest of the chain. -/
  | resumed (place : Nat) (upshot : Job.Upshot (Outcome World))
  | left (place : Nat) (outcome : Outcome World)

namespace Event

/-- The place, if a function is entered. -/
def entered? : Event World → Option Nat
  | entered place => some place
  | resumed .. => none
  | left .. => none

end Event

/-- A world with a journal beside it. -/
abbrev Journaled (World : Type) := Job.Recorded World (Event World)

/-- What is to be done by the plan of the function at a place, with a journal. -/
def Plan.journaled (place : Nat) (rest : Response → Request → Job (Journaled World) (Outcome World)) :
    Plan World → Job (Journaled World) (Outcome World)
  | done outcome => .note (.left place outcome) (.done outcome)
  | panic payload => .panic payload
  | act change next =>
      .act (fun now seen => (change now seen.1, seen.2)) fun now seen =>
        (next now seen.1).journaled place rest
  | sleep wake next => .sleep wake (next.journaled place rest)
  | proceed response request stays next =>
      (rest response request).watch stays
        (fun upshot => .note (.resumed place upshot) ((next upshot).journaled place rest)) []

/-- The function at a place, with a journal, in front of some rest of a chain. -/
def Planned.journaled (place : Nat) (planned : Planned World) (remaining : Nat)
    (rest : Response → Request → Job (Journaled World) (Outcome World)) (response : Response)
    (request : Request) : Job (Journaled World) (Outcome World) :=
  .note (.entered place) ((planned remaining response request).journaled place rest)

/-- The end of a chain at a place, with a journal. There is no rest that it could run. -/
def journaledEnd (terminal : Response → Request → Job World (Outcome World)) (place : Nat)
    (response : Response) (request : Request) : Job (Journaled World) (Outcome World) :=
  .note (.entered place)
    ((Plan.ofJob (terminal response request)).journaled place fun _ _ => .panic ⟨none⟩)

/-- What a chain does from a place on, with a journal. -/
def journaledChain (terminal : Response → Request → Job World (Outcome World)) :
    Nat → List (Planned World) → Response → Request → Job (Journaled World) (Outcome World)
  | place, [] => journaledEnd terminal place
  | place, planned :: rest =>
      planned.journaled place rest.length (journaledChain terminal (place + 1) rest)

/-! ## All else is as before -/

theorem Plan.mirrors_journaled (place : Nat)
    {journaled : Response → Request → Job (Journaled World) (Outcome World)}
    {rest : Response → Request → Job World (Outcome World)}
    (mirrors : ∀ response request, (journaled response request).Mirrors (rest response request))
    (plan : Plan World) : (plan.journaled place journaled).Mirrors (plan.job rest) := by
  induction plan with
  | done outcome => exact .note _ (.done outcome)
  | panic payload => exact .panic payload
  | act change next inductionHypothesis => exact .act change inductionHypothesis
  | sleep wake next inductionHypothesis => exact .sleep wake inductionHypothesis
  | proceed response request stays next inductionHypothesis =>
      exact (mirrors response request).watch stays
        (fun upshot => .note _ (inductionHypothesis upshot)) []

/-- **A chain that keeps a journal does what the chain does.** -/
theorem mirrors_journaledChain (terminal : Response → Request → Job World (Outcome World))
    (plans : List (Planned World)) : ∀ place response request,
      (journaledChain terminal place plans response request).Mirrors
        ((Chain.ofList terminal (plans.map Planned.middleware)).proceed response request) := by
  induction plans with
  | nil =>
      intro place response request
      have ends : ((Plan.ofJob (terminal response request)).journaled place
          fun _ _ => .panic ⟨none⟩).Mirrors
          ((Plan.ofJob (terminal response request)).job fun _ _ => .panic ⟨none⟩) :=
        Plan.mirrors_journaled place (fun _ _ => .panic _) _
      rw [Plan.job_ofJob] at ends
      exact .note _ ends
  | cons planned rest inductionHypothesis =>
      intro place response request
      have follows := Plan.mirrors_journaled place (inductionHypothesis (place + 1))
        (planned rest.length response request)
      have behind : (Chain.ofList terminal (rest.map Planned.middleware)).remaining =
          rest.length := by
        rw [Chain.ofList_eq, List.length_map]
      have plain : (Chain.ofList terminal ((planned :: rest).map Planned.middleware)).proceed
          response request = (planned rest.length response request).job
            (Chain.ofList terminal (rest.map Planned.middleware)).proceed := by
        rw [← behind]
        rfl
      rw [plain]
      exact .note _ follows

/-! ## Journals of a function and those behind it -/

/-- What a function has entered in its journal, with `count` functions behind it, at a moment at
which its job is about to do something. -/
inductive Course : Nat → Nat → Job.Stage (Outcome World) → List (Event World) → Prop where
  | begins (place count : Nat) : Course place count .acting []
  | enters (place count : Nat) : Course place count .stopping [.entered place]
  /-- A moment of its own is also one at which it acts. -/
  | acts {place count : Nat} {journal : List (Event World)}
      (course : Course place count .stopping journal) :
      Course place count .acting journal
  /-- The rest of the chain stops, and has not been given up. -/
  | waits {place count : Nat} {inner : List (Event World)}
      (rest : Course (place + 1) count .stopping inner) :
      Course place (count + 1) .stopping (.entered place :: inner)
  /-- Whatever the rest of the chain does, its watch acts with it, or behind it. -/
  | follows {place count : Nat} {stage : Job.Stage (Outcome World)} {inner : List (Event World)}
      (rest : Course (place + 1) count stage inner) :
      Course place (count + 1) .acting (.entered place :: inner)
  | resumes {place count : Nat} {upshot : Job.Upshot (Outcome World)} {inner : List (Event World)}
      (rest : Course (place + 1) count upshot.stage inner) :
      Course place (count + 1) .stopping (.entered place :: inner ++ [.resumed place upshot])
  | leaves {place count : Nat} {journal : List (Event World)}
      (course : Course place count .stopping journal) (outcome : Outcome World) :
      Course place count (.returned outcome) (journal ++ [.left place outcome])

namespace Course

/-- A journal in front, followed by the one of the function at a place. -/
def Behind (front : List (Event World)) (place count : Nat) (stage : Job.Stage (Outcome World))
    (journal : List (Event World)) : Prop :=
  ∃ own, journal = front ++ own ∧ Course place count stage own

theorem Behind.acts {front journal : List (Event World)} {place count : Nat}
    (behind : Behind front place count .stopping journal) :
    Behind front place count .acting journal := by
  obtain ⟨own, rfl, course⟩ := behind
  exact ⟨own, rfl, course.acts⟩

/-- A plan that does not run the rest adds only that the function leaves. -/
theorem writes_of_none {place count : Nat} {front : List (Event World)}
    {rest : Response → Request → Job (Journaled World) (Outcome World)} {plan : Plan World}
    (never : plan.AtMost 0) {journal : List (Event World)}
    (behind : Behind front place count .stopping journal) :
    (plan.journaled place rest).Writes (Behind front place count) journal := by
  induction plan with
  | done outcome =>
      obtain ⟨own, rfl, course⟩ := behind
      refine Job.writes_note ⟨own, rfl, course.acts⟩ ?_
      exact ⟨_, List.append_assoc .., course.leaves outcome⟩
  | panic payload => exact behind
  | act change next inductionHypothesis =>
      exact ⟨behind.acts, fun now world => inductionHypothesis now world (never now world)⟩
  | sleep wake next inductionHypothesis => exact ⟨behind, inductionHypothesis never⟩
  | proceed response request stays next => exact never.elim

/-- A plan that runs the rest once adds what the rest adds, how that has ended, and that the
function leaves. -/
theorem writes_of_once {place count : Nat} {front : List (Event World)}
    {rest : Response → Request → Job (Journaled World) (Outcome World)} {plan : Plan World}
    (once : plan.AtMost 1)
    (inner : ∀ front response request,
      (rest response request).Writes (Behind front (place + 1) count) front) :
    (plan.journaled place rest).Writes (Behind front place (count + 1))
      (front ++ [.entered place]) := by
  have entered : Behind front place (count + 1) .stopping (front ++ [.entered place]) :=
    ⟨_, rfl, .enters place (count + 1)⟩
  induction plan with
  | done outcome =>
      have never : (Plan.done outcome : Plan World).AtMost 0 := trivial
      exact writes_of_none never entered
  | panic payload => exact entered
  | act change next inductionHypothesis =>
      exact ⟨entered.acts, fun now world => inductionHypothesis now world (once now world)⟩
  | sleep wake next inductionHypothesis => exact ⟨entered, inductionHypothesis once⟩
  | proceed response request stays next =>
      have follows : ∀ {stage journal}, Behind (front ++ [.entered place]) (place + 1) count stage
          journal → Behind front place (count + 1) .acting journal := by
        rintro stage journal ⟨own, rfl, course⟩
        exact ⟨_, List.append_assoc .., course.follows⟩
      refine (inner (front ++ [.entered place]) response request).watch (fun _ => follows) ?_ ?_ []
      · rintro journal ⟨own, rfl, course⟩
        exact ⟨_, List.append_assoc .., course.waits⟩
      · rintro upshot journal behind
        refine Job.writes_note (follows behind) (writes_of_none (once upshot) ?_)
        obtain ⟨own, rfl, course⟩ := behind
        refine ⟨_, ?_, course.resumes⟩
        simp only [List.append_assoc, List.cons_append, List.nil_append]

/-- **What a chain writes**, with any journal in front. The induction is on the chain: a function
writes between what those behind it write. -/
theorem writes_journaledChain (terminal : Response → Request → Job World (Outcome World))
    {plans : List (Planned World)} (single : ∀ planned ∈ plans, Planned.Single planned) :
    ∀ place front response request,
      (journaledChain terminal place plans response request).Writes
        (Behind front place plans.length) front := by
  induction plans with
  | nil =>
      intro place front response request
      refine Job.writes_note ⟨[], (List.append_nil _).symm, .begins place 0⟩ ?_
      exact writes_of_none (Plan.atMost_ofJob 0 _) ⟨_, rfl, .enters place 0⟩
  | cons planned rest inductionHypothesis =>
      intro place front response request
      obtain ⟨here, further⟩ := List.forall_mem_cons.mp single
      refine Job.writes_note ⟨[], (List.append_nil _).symm, .begins place _⟩ ?_
      exact writes_of_once (here _ response request) (inductionHypothesis further (place + 1))

/-! ## Order -/

/-- The first event of a function is that it is entered. -/
theorem entered_first {place count : Nat} {stage : Job.Stage (Outcome World)}
    {journal : List (Event World)} (course : Course place count stage journal) :
    ∀ event ∈ journal.head?, event = .entered place := by
  induction course with
  | begins => exact fun _ member => nomatch member
  | enters place count => simp
  | acts _ inductionHypothesis => exact inductionHypothesis
  | waits _ _ => simp
  | follows _ _ => simp
  | resumes _ _ => simp
  | leaves course outcome inductionHypothesis =>
      rename_i journal
      cases journal with
      | nil => cases course
      | cons first later => exact inductionHypothesis

/-- Between acts the last event is that a function leaves just if the function has returned. -/
theorem left_last_iff {place count : Nat} {stage : Job.Stage (Outcome World)}
    {journal : List (Event World)} (course : Course place count stage journal) (between : stage ≠ .acting) (other : Nat)
    (outcome : Outcome World) :
    journal.getLast? = some (.left other outcome) ↔
      other = place ∧ stage = .returned outcome := by
  induction course with
  | begins => exact absurd rfl between
  | enters place count => simp
  | acts => exact absurd rfl between
  | waits rest inductionHypothesis =>
      rename_i inner
      have never := inductionHypothesis between
      cases inner with
      | nil => simp
      | cons first later => simpa using never
  | follows => exact absurd rfl between
  | resumes rest _ =>
      rw [List.getLast?_concat]
      simp
  | leaves course own _ => simp [eq_comm]

end Course

/-- The functions of a chain, `count` of them in front of its end, are run in order. -/
structure Orderly (place count : Nat) (journal : List (Event World)) : Prop where
  /-- The functions that are entered are the first ones, in order, each entered once. -/
  entered : journal.filterMap Event.entered? <+: List.range' place (count + 1)
  /-- Once a function has returned, no function is entered. -/
  returned : journal.Pairwise fun earlier later =>
    ∀ place outcome, earlier = .left place outcome → later.entered? = none
  /-- What a function returns is what the one in front of it goes on with, and at once. -/
  answered : journal.IsChain fun event next => ∀ place outcome,
    event = .left (place + 1) outcome ↔ next = .resumed place (.returned outcome)

namespace Orderly

/-- In front of the journal of those behind it, a function is entered. -/
theorem cons {place count : Nat} {inner : List (Event World)}
    (orderly : Orderly (place + 1) count inner)
    (first : ∀ event ∈ inner.head?, event = .entered (place + 1)) :
    Orderly place (count + 1) (.entered place :: inner) where
  entered := List.cons_prefix_cons.mpr ⟨rfl, orderly.entered⟩
  returned := List.pairwise_cons.mpr ⟨fun _ _ _ _ left => (nomatch left), orderly.returned⟩
  answered := by
    refine List.isChain_cons.mpr ⟨?_, orderly.answered⟩
    intro event member
    rw [first event member]
    simp

/-- Behind the journal so far, a function may resume or leave. -/
theorem concat {place count : Nat} {journal : List (Event World)}
    (orderly : Orderly place count journal) {event : Event World} (none : event.entered? = none)
    (link : ∀ place outcome, journal.getLast? = some (.left (place + 1) outcome) ↔
      event = .resumed place (.returned outcome)) :
    Orderly place count (journal ++ [event]) where
  entered := by
    rw [List.filterMap_append, List.filterMap_cons_none none, List.filterMap_nil, List.append_nil]
    exact orderly.entered
  returned := by
    refine List.pairwise_append.mpr ⟨orderly.returned, List.pairwise_singleton _ _, ?_⟩
    intro earlier _ later member _ _ _
    rw [List.mem_singleton.mp member]
    exact none
  answered := by
    refine List.isChain_append.mpr ⟨orderly.answered, List.isChain_singleton _, ?_⟩
    intro last ending next here other outcome
    have next_eq : next = event := (Option.some.inj here).symm
    rw [next_eq, ← link other outcome, show journal.getLast? = some last from ending,
      Option.some.injEq]

/-- **What can be in the journal of a function and those behind it is in order.** -/
theorem of_course {place count : Nat} {stage : Job.Stage (Outcome World)}
    {journal : List (Event World)} (course : Course place count stage journal) : Orderly place count journal := by
  induction course with
  | begins place count => exact ⟨List.nil_prefix, .nil, .nil⟩
  | enters place count =>
      exact ⟨List.prefix_iff_eq_append.mpr rfl, List.pairwise_singleton _ _,
        List.isChain_singleton _⟩
  | acts _ inductionHypothesis => exact inductionHypothesis
  | waits rest inductionHypothesis => exact inductionHypothesis.cons rest.entered_first
  | follows rest inductionHypothesis => exact inductionHypothesis.cons rest.entered_first
  | resumes rest inductionHypothesis =>
      rename_i place count upshot inner
      refine (inductionHypothesis.cons rest.entered_first).concat rfl ?_
      intro other outcome
      have last := rest.left_last_iff (by cases upshot <;> simp [Job.Upshot.stage]) (other + 1) outcome
      have behind : (Event.entered place :: inner).getLast? = some (.left (other + 1) outcome) ↔
          inner.getLast? = some (.left (other + 1) outcome) := by
        cases inner <;> simp
      rw [behind, last]
      cases upshot <;> simp [Job.Upshot.stage, eq_comm]
  | leaves course own inductionHypothesis =>
      refine inductionHypothesis.concat rfl ?_
      intro other outcome
      rw [course.left_last_iff (by simp)]
      simp

end Orderly

/-! ## Chains -/

namespace Service

/-- The service after some middleware has been registered, one after the other. -/
def withMiddleware (service : Service World) : List (Middleware World) → Service World
  | [] => service
  | next :: rest => (service.addMiddleware next).2.1.withMiddleware rest

/-- Until the service starts, middleware gathers in the order in which it is registered. -/
theorem withMiddleware_eq {service : Service World} (idle : service.started = false)
    (added : List (Middleware World)) :
    service.withMiddleware added =
      { service with
        pipeline :=
          { service.pipeline with middleware := service.pipeline.middleware ++ added } } := by
  induction added generalizing service with
  | nil =>
      rw [List.append_nil]
      rfl
  | cons next rest inductionHypothesis =>
      have registered : (service.addMiddleware next).2.1 =
          { service with
            pipeline :=
              { service.pipeline with middleware := service.pipeline.middleware ++ [next] } } := by
        unfold addMiddleware register
        rw [idle]
        rfl
      have still : (service.addMiddleware next).2.1.started = false := by
        rw [registered]
        exact idle
      rw [withMiddleware, inductionHypothesis still, registered, List.append_assoc]
      rfl

end Service

/-- **A chain is a composition of functions.** A chain that goes through its stack place by place is
at every place the composition of what stands behind it, whatever the functions are; the chain of a
service is that of its middleware in the order of registration, behind the guards. If no function
runs the rest of its chain more than once by its plans, then at every moment of every course,
whatever others do to the world meanwhile, the functions have been entered in order from the first
one, each at most once, and none after one has returned; and what a function returns is at once what
the one in front of it goes on with, up to the first one, whose outcome is that of the chain. -/
theorem Chain.composed_in_order :
    (∀ (terminal : Response → Request → Job World (Outcome World)) (stack : List (Middleware World)),
      ofList terminal stack = onward terminal stack 0 ∧
      ∀ place, onward terminal stack place =
        ⟨stack.length - place, composed terminal (stack.drop place)⟩) ∧
    (∀ (service : Service World) (added : List (Middleware World)), service.started = false →
      ∀ endpoint, (service.withMiddleware added).pipeline.chain endpoint =
        onward (service.pipeline.terminal endpoint).dispatch
          (service.pipeline.middleware ++ added) 0) ∧
    ∀ (terminal : Response → Request → Job World (Outcome World)) (plans : List (Planned World)),
      (∀ planned ∈ plans, Planned.Single planned) → ∀ response request,
        (journaledChain terminal 0 plans response request).Mirrors
          ((ofList terminal (plans.map Planned.middleware)).proceed response request) ∧
        ∀ rest journal,
          (journaledChain terminal 0 plans response request).Leads [] rest journal →
            Orderly 0 plans.length journal ∧
            ∀ outcome, rest = .done outcome → journal.getLast? = some (.left 0 outcome) := by
  have places : ∀ (terminal : Response → Request → Job World (Outcome World))
      (stack : List (Middleware World)), ofList terminal stack = onward terminal stack 0 := by
    intro terminal stack
    rw [ofList_eq, onward_eq]
    rfl
  refine ⟨fun terminal stack => ⟨places terminal stack, onward_eq terminal stack⟩, ?_, ?_⟩
  · intro service added idle endpoint
    rw [← places, Service.withMiddleware_eq idle]
    rfl
  · intro terminal plans single response request
    refine ⟨mirrors_journaledChain terminal plans 0 response request, ?_⟩
    intro rest journal leads
    have writes := Course.writes_journaledChain terminal single 0 [] response request
    obtain ⟨own, rfl, course⟩ := writes.of_leads leads
    refine ⟨.of_course course, ?_⟩
    rintro outcome rfl
    exact (course.left_last_iff (by simp [Job.stage]) 0 outcome).mpr ⟨rfl, rfl⟩

/-! ## A refusal that is caught -/

/-- Turns what is refused behind it into a success. -/
def softened : Planned Nat :=
  fun _ response request => .await response request fun outcome =>
    .done { outcome with verdict := .ok () }

/-- Gives up what rests behind it for the second time. -/
def impatient : Planned Nat :=
  fun _ response request =>
    .proceed response request (fun rests => rests.length < 2) fun
      | .returned outcome => .done outcome
      | .panicked _ => .done ⟨.error .deadlineExceeded, response, request⟩
      | .abandoned _ => .done ⟨.error .deadlineExceeded, response, request⟩

theorem single_softened : Planned.Single softened :=
  fun _ response request => Plan.atMost_await response request fun _ => trivial

theorem single_impatient : Planned.Single impatient := by
  intro _ _ _ upshot
  cases upshot <;> trivial

/-- Middleware around the guards and behind them. -/
def layered : List (Planned Nat) :=
  softened :: guardPlans .default ++ [impatient]

theorem single_layered : ∀ planned ∈ layered, Planned.Single planned := by
  intro planned member
  rcases List.mem_append.mp member with front | last
  · rcases List.mem_cons.mp front with rfl | guard
    · exact single_softened
    · exact single_guardPlans .default planned guard
  · rw [List.mem_singleton.mp last]
    exact single_impatient

/-- What is known once a request without host has been answered. -/
def refusedHost : Outcome Nat :=
  ⟨.error (Guard.refusal "Host header is required"), .ofStatus .ok, default⟩

/-- The host is refused behind two functions. The first one makes a success of it, and the last one
is never entered. -/
theorem Chain.composed_in_order_layered :
    (∀ planned ∈ layered, Planned.Single planned) ∧
      layered.map Planned.middleware =
        softened.middleware :: guards .default ++ [impatient.middleware] ∧
      ∃ journal,
        (journaledChain (Terminal.mk none false false).dispatch 0 layered (.ofStatus .ok)
          default).Leads [] (.done { refusedHost with verdict := .ok () }) journal ∧
        journal =
          [.entered 0, .entered 1, .entered 2, .left 2 refusedHost,
            .resumed 1 (.returned refusedHost), .left 1 refusedHost,
            .resumed 0 (.returned refusedHost), .left 0 { refusedHost with verdict := .ok () }] ∧
        Orderly 0 4 journal := by
  obtain ⟨-, -, orderly⟩ := @Chain.composed_in_order Nat
  obtain ⟨-, along⟩ := orderly (Terminal.mk none false false).dispatch layered single_layered
    (.ofStatus .ok) default
  have start := @Job.Leads.outset _ _ _ (journaledChain (Terminal.mk none false false).dispatch 0
    layered (.ofStatus .ok) default) []
  have run := start.run 0 0 0
  refine ⟨single_layered, ?_, _, run, rfl, (along _ _ run).1⟩
  rw [← middleware_guardPlans]
  rfl

end HttpService
