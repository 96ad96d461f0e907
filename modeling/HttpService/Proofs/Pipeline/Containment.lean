import Mathlib.Tactic.Common
import HttpService.Proofs.Concurrency.Guarantee
import HttpService.Proofs.Pipeline.Identities

/-!
Contract: what a request is answered with, whatever its chain does.

Owns:
- what the work on a request leaves: the error, the response that it is written on, and the request
  that goes with it;
- **faults and panics of the chain are contained**, if neither the mapper nor a responder panics, the
  deadline can be told, and the error can be put into words;
- that they are not contained without the last two.

Does not own: requests that cannot be read.
-/

namespace HttpService.Pipeline

variable {World : Type}

/-- What the work on a request leaves: the error, if there is one, the response that it is written
on, and the request that goes with it. -/
inductive Leaves (pipeline : Pipeline World) (request : Request) (engine : Engine World) :
    Option (HttpError World) → Response → Request → Prop where
  /-- Rewriting has failed. -/
  | misdirected {error : RequestError} {left : Request} {answer : HttpError World}
      (directed : pipeline.directed request = .error (error, left))
      (resolved : ((Fault.request error).resolve pipeline.config.mapper engine.clock
        engine.world).1 = .ok answer) :
      Leaves pipeline request engine (some answer) (.forMethod request.method) left
  /-- The chain has ended well: the response that it left. -/
  | completed {endpoint : Option (Endpoint World)} {routed left : Request} {response : Response}
      (directed : pipeline.directed request = .ok (endpoint, routed))
      (came : (pipeline.chainRun request endpoint routed engine).1 =
        some (.ok ⟨.ok (), response, left⟩)) :
      Leaves pipeline request engine none response left
  /-- The chain has ended with a fault: its error, and the response that it had built. -/
  | failed {endpoint : Option (Endpoint World)} {routed left : Request} {response : Response}
      {fault : Fault World} {answer : HttpError World} {after : Engine World}
      (directed : pipeline.directed request = .ok (endpoint, routed))
      (ran : pipeline.chainRun request endpoint routed engine =
        (some (.ok ⟨.error fault, response, left⟩), after))
      (resolved : (fault.resolve pipeline.config.mapper after.clock after.world).1 = .ok answer) :
      Leaves pipeline request engine (some answer) response left
  /-- The chain has panicked: a bare error, and the response that it was given. -/
  | panicked {endpoint : Option (Endpoint World)} {routed : Request} {payload : Panic}
      (directed : pipeline.directed request = .ok (endpoint, routed))
      (came : (pipeline.chainRun request endpoint routed engine).1 = some (.error payload)) :
      Leaves pipeline request engine (some (.ofStatus .internalServerError))
        (.forMethod request.method) routed
  /-- The chain is late: the error for this, and the response that it was given. -/
  | late {endpoint : Option (Endpoint World)} {routed : Request} {answer : HttpError World}
      {after : Engine World}
      (directed : pipeline.directed request = .ok (endpoint, routed))
      (ran : pipeline.chainRun request endpoint routed engine = (none, after))
      (resolved : (Fault.deadlineExceeded.resolve pipeline.config.mapper after.clock
        after.world).1 = .ok answer) :
      Leaves pipeline request engine (some answer) (.forMethod request.method) routed

section

variable {pipeline : Pipeline World} {request : Request} {engine : Engine World}

/-- What the work on a request comes to is what it leaves. -/
theorem leaves_of_worked {error : Option (HttpError World)} {response : Response} {left : Request}
    {action : Action World (Judgement World)} {after : Engine World}
    (worked : pipeline.worked request engine = (action, after))
    (came : (action after.clock after.world).1 = .ok (error, response, left)) :
    pipeline.Leaves request engine error response left := by
  cases way : pipeline.directed request with
  | error failure =>
      obtain ⟨cause, kept⟩ := failure
      cases (worked_misdirected way).symm.trans worked
      obtain ⟨answer, resolved, same⟩ := Action.exists_of_map_ok came
      cases same
      exact .misdirected way resolved
  | ok found =>
      obtain ⟨endpoint, routed⟩ := found
      cases ran : pipeline.chainRun request endpoint routed engine with
      | mk found later =>
          cases (worked_directed way ran).symm.trans worked
          cases found with
          | none =>
              obtain ⟨answer, resolved, same⟩ := Action.exists_of_map_ok came
              cases same
              exact .late way ran resolved
          | some ended =>
              cases ended with
              | error payload =>
                  cases came
                  exact .panicked way (congrArg Prod.fst ran)
              | ok outcome =>
                  obtain ⟨verdict, built, kept⟩ := outcome
                  cases verdict with
                  | ok _ =>
                      cases came
                      exact .completed way (congrArg Prod.fst ran)
                  | error fault =>
                      obtain ⟨answer, resolved, same⟩ := Action.exists_of_map_ok came
                      cases same
                      exact .failed way ran resolved

end

/-! ## Without panics of the mapper and the responders -/

/-- A pipeline whose mapper and responders never panic. -/
structure Calm (pipeline : Pipeline World) : Prop where
  mapper : ∀ mapper, pipeline.config.mapper = some mapper → ∀ fault, (mapper fault).Calm
  responders : ∀ entry ∈ pipeline.responders.entries, ∀ response request,
    (entry.2 response request).Calm

namespace Calm

variable {pipeline : Pipeline World}

theorem resolve (calm : pipeline.Calm) (fault : Fault World) :
    (fault.resolve pipeline.config.mapper).Calm := by
  unfold Fault.resolve
  split
  · exact Action.calm_pure _
  · exact Action.calm_pure _
  · rename_i fault _ _ mapper _ configured
    exact (calm.mapper mapper configured fault).map _

theorem judged (calm : pipeline.Calm) (given : Response) (routed : Request)
    (came : Option (Except Panic (Outcome World))) :
    (pipeline.judged given routed came).Calm := by
  cases came with
  | none => exact (calm.resolve .deadlineExceeded).map _
  | some ended =>
      cases ended with
      | error payload => exact Action.calm_pure _
      | ok outcome =>
          obtain ⟨verdict, response, left⟩ := outcome
          cases verdict with
          | ok _ => exact Action.calm_pure _
          | error fault => exact (calm.resolve fault).map _

theorem worked (calm : pipeline.Calm) (request : Request) (engine : Engine World) :
    (pipeline.worked request engine).1.Calm := by
  cases way : pipeline.directed request with
  | error failure =>
      rw [worked_misdirected way]
      exact calm.judged _ _ _
  | ok found =>
      rw [worked_directed way rfl]
      exact calm.judged _ _ _

theorem reworked (calm : pipeline.Calm) (response : Response) (request : Request) :
    (pipeline.reworked response request).Calm := by
  unfold Pipeline.reworked
  split
  · unfold Responders.respond
    cases found : pipeline.responders.find? response.status with
    | none => exact Action.calm_pure response
    | some responder => exact calm.responders _ (mem_entries_of_find? found) response request
  · exact Action.calm_pure response

end Calm

section

variable {pipeline : Pipeline World} {error : Option (HttpError World)} {response : Response}
  {left : Request} {now : Nat} {world : World}

/-- A panic of the wording of an error goes through. -/
theorem concluded_of_panic {payload : Panic}
    (panicked : (reported error now world).1 = .error payload) :
    (pipeline.concluded (error, response, left) now world).1 = .error payload := by
  have ended := Action.eq_of_error panicked
  unfold concluded writtenDown Action.map
  rw [Action.bind_of_error (Action.bind_of_error ended)]

/-- Once an error has been reported, a response is delivered, unless the responder panics. -/
theorem Calm.concluded (calm : pipeline.Calm) (reports : (reported error now world).1 = .ok ()) :
    ∃ responded later,
      (pipeline.reworked (written error response) left now later).1 = .ok responded ∧
        (pipeline.concluded (error, response, left) now world).1 =
          .ok (withoutHeadBody left responded) := by
  have ended := Action.eq_of_ok reports
  obtain ⟨responded, after, reworks⟩ :=
    (calm.reworked (written error response) left).exists_ok now (reported error now world).2
  refine ⟨responded, (reported error now world).2, congrArg Prod.fst reworks, ?_⟩
  unfold Pipeline.concluded writtenDown
  rw [Action.bind_map, Action.bind_of_ok ended]
  unfold delivered
  rw [Action.fst_map, reworks]
  rfl

end

section

variable {pipeline : Pipeline World} {engine : Engine World} {raw : Bytes} {request : Request}

/-- What the work on a request leaves is answered, unless its error panics when it is reported. -/
theorem Calm.answers (calm : pipeline.Calm) (timely : pipeline.HasDeadline engine.clock)
    (parsed : Wire.readRequest raw pipeline.config.maxBody = .ok request)
    (peer : Option Network.SocketAddress) :
    ∃ error response left now world,
      pipeline.Leaves (pipeline.opened request peer engine.clock) engine error response left ∧
        (∀ payload, (reported error now world).1 = .error payload →
          (pipeline.handle raw peer engine).1 = .error payload) ∧
        ((reported error now world).1 = .ok () → ∃ responded later,
          (pipeline.reworked (written error response) left now later).1 = .ok responded ∧
            (pipeline.handle raw peer engine).1 = .ok (withoutHeadBody left responded)) := by
  have settles := calm.worked (pipeline.opened request peer engine.clock) engine
  cases works : pipeline.worked (pipeline.opened request peer engine.clock) engine with
  | mk action after =>
      rw [works] at settles
      obtain ⟨⟨error, response, left⟩, later, came⟩ := settles.exists_ok after.clock after.world
      have answered : (pipeline.handle raw peer engine).1 =
          (pipeline.concluded (error, response, left) after.clock later).1 := by
        rw [(performs_handle timely parsed works).result, Action.bind_of_ok came]
      refine ⟨error, response, left, after.clock, later,
        leaves_of_worked works (congrArg Prod.fst came), ?_, ?_⟩
      · intro payload panicked
        rw [answered, concluded_of_panic panicked]
      · intro reports
        obtain ⟨responded, world, reworks, concludes⟩ := calm.concluded reports
        exact ⟨responded, world, reworks, answered.trans concludes⟩

/-- **Faults and panics are contained.** Whatever the chain of a request does that has been read, and
that has a deadline: what the work on the request leaves is answered. If its error panics when it is
reported, so does the answer; otherwise there is a response, which is what is left with the error
written on it, after the responder and, for HEAD, without its body. What the chain is found to have
come to is what its course allows. -/
theorem handle_contains (calm : pipeline.Calm) (fresh : engine.Fresh)
    (timely : pipeline.HasDeadline engine.clock)
    (parsed : Wire.readRequest raw pipeline.config.maxBody = .ok request)
    (peer : Option Network.SocketAddress) :
    (∃ error response left now world,
      pipeline.Leaves (pipeline.opened request peer engine.clock) engine error response left ∧
        (∀ payload, (reported error now world).1 = .error payload →
          (pipeline.handle raw peer engine).1 = .error payload) ∧
        ((reported error now world).1 = .ok () → ∃ responded later,
          (pipeline.reworked (written error response) left now later).1 = .ok responded ∧
            (pipeline.handle raw peer engine).1 = .ok (withoutHeadBody left responded))) ∧
      ∀ endpoint routed,
        pipeline.directed (pipeline.opened request peer engine.clock) = .ok (endpoint, routed) →
          (pipeline.chainJob endpoint routed).Comes engine.clock
            (engine.clock + pipeline.config.writeTimeout)
            (pipeline.chainRun (pipeline.opened request peer engine.clock) endpoint routed
              engine).1 :=
  ⟨calm.answers timely parsed peer, fun endpoint routed _ =>
    comes_chainRun fresh pipeline _ endpoint routed⟩

end

/-! ## Services with one middleware -/

/-- A service without routes, with some time to answer and one middleware. -/
def alone (timeout : Nat) (next : Middleware Unit) : Pipeline Unit :=
  ⟨{ Config.default with writeTimeout := timeout }, .empty, .empty, [next], .empty⟩

theorem calm_alone (timeout : Nat) (next : Middleware Unit) : (alone timeout next).Calm :=
  ⟨nofun, nofun⟩

/-- A request for such a service. -/
def lostRequest : Request :=
  .make .get ⟨["a"], none, "/a", false, [], .empty⟩ (Headers.empty.append "Host" "x") []

/-- The octets of this request. -/
def lostBytes : Bytes :=
  Utf8.encode "GET /a HTTP/1.1\r\nHost: x\r\n\r\n"

theorem parsed_lost : Wire.readRequest lostBytes Wire.defaultMaxBody = .ok lostRequest := by
  decide +kernel

/-- The error of such a request in a service without routes, where nothing panics. -/
def unroutedError (World : Type) : HttpError World :=
  (HttpError.ofStatus .notFound).withMessage "Invalid route: /a"

/-- A middleware that panics. -/
def lost : Middleware Unit :=
  fun _ _ _ => .panic ⟨some "lost"⟩

/-- Connections that bring nothing, and no request. -/
def earlier : List (List Arrival × Sink × Option Network.SocketAddress) :=
  [([], .accepts, none), ([.chunk (Utf8.encode "GET\r\n\r\n")], .accepts, none)]

theorem clock_earlier : ((alone 10000 lost).serveAll earlier (.start ())).clock = 0 := by
  decide +kernel

/-- A panic is answered after other connections as it is at first. -/
theorem handle_contains_lostRequest :
    (alone 10000 lost).Calm ∧
      ((alone 10000 lost).serveAll earlier (.start ())).Fresh ∧
      (alone 10000 lost).HasDeadline ((alone 10000 lost).serveAll earlier (.start ())).clock ∧
      Wire.readRequest lostBytes (alone 10000 lost).config.maxBody = .ok lostRequest ∧
      ((alone 10000 lost).handle lostBytes none
          ((alone 10000 lost).serveAll earlier (.start ()))).1 =
        .ok ((Response.forMethod .get).writeError
          (.ofStatus .internalServerError : HttpError Unit)) := by
  have calm := calm_alone 10000 lost
  have fresh := fresh_serveAll (alone 10000 lost) earlier (Machine.fresh_start ())
  have clock := clock_earlier
  generalize (alone 10000 lost).serveAll earlier (.start ()) = engine at fresh clock
  have timely : (alone 10000 lost).HasDeadline engine.clock := by
    rw [clock]
    decide
  refine ⟨calm, fresh, timely, parsed_lost, ?_⟩
  obtain ⟨⟨error, response, left, now, world, leaves, _, answered⟩, comes⟩ :=
    handle_contains calm fresh timely parsed_lost none
  have way : (alone 10000 lost).directed
      ((alone 10000 lost).opened lostRequest none engine.clock) =
        .ok (none, (alone 10000 lost).opened lostRequest none engine.clock) := rfl
  have course : Job.Comes (.ofOutcome (.error ⟨some "lost"⟩)) engine.clock (engine.clock + 10000)
      ((alone 10000 lost).chainRun
        ((alone 10000 lost).opened lostRequest none engine.clock) none
        ((alone 10000 lost).opened lostRequest none engine.clock) engine).1 := comes _ _ way
  have came := course.of_outcome (by omega)
  cases leaves with
  | misdirected directed _ => cases way.symm.trans directed
  | completed directed ended =>
      cases way.symm.trans directed
      cases came.symm.trans ended
  | failed directed ran _ =>
      cases way.symm.trans directed
      cases came.symm.trans (congrArg Prod.fst ran)
  | late directed ran _ =>
      cases way.symm.trans directed
      cases came.symm.trans (congrArg Prod.fst ran)
  | panicked directed ended =>
      cases way.symm.trans directed
      obtain ⟨responded, later, reworks, same⟩ := answered rfl
      cases reworks
      exact same

/-- A middleware that adds a header, and rests for longer than there is time. -/
def tracing : Middleware Unit :=
  fun chain response request =>
    .sleep 20000 (chain.proceed (response.setHeader "X-Trace" "kept") request)

/-- A middleware that refuses requests with an error that cannot be put into words. -/
def wordless : Middleware Unit :=
  fun _ response request =>
    .done ⟨.error (.application "lost" (.panic ⟨some "wordless"⟩)), response, request⟩

/-- **What is not contained.** Of a chain that is late nothing is left, not even what it has written
in time; and where there is no deadline, or no wording of the error, there is a panic. -/
theorem handle_escapes :
    ((alone 10000 tracing).Calm ∧
      ((alone 10000 tracing).chainJob none ((alone 10000 tracing).opened lostRequest none 0)).Reaches
        0 (.done ⟨.error (.ofHttp (unroutedError Unit)),
          (Response.forMethod .get).setHeader "X-Trace" "kept",
          (alone 10000 tracing).opened lostRequest none 0⟩) 20000 ∧
      ∃ response, ((alone 10000 tracing).handle lostBytes none (.start ())).1 = .ok response ∧
        response.headers.all? "X-Trace" = none) ∧
      ((alone (Deadline.lastMoment + 1) lost).Calm ∧
        ((alone (Deadline.lastMoment + 1) lost).handle lostBytes none (.start ())).1 =
          .error deadlineTooFar) ∧
      (alone 10000 wordless).Calm ∧
        ((alone 10000 wordless).handle lostBytes none (.start ())).1 =
          .error ⟨some "wordless"⟩ := by
  refine ⟨⟨calm_alone _ _, .sleep .begin (by decide) (by decide), ?_⟩, ⟨calm_alone _ _, ?_⟩,
    calm_alone _ _, ?_⟩
  · have comes := comes_chainRun (Machine.fresh_start ()) (alone 10000 tracing)
      ((alone 10000 tracing).opened lostRequest none 0) none
      ((alone 10000 tracing).opened lostRequest none 0)
    have rests : ((alone 10000 tracing).chainJob none
        ((alone 10000 tracing).opened lostRequest none 0)).Outlasts (0 + 10000) := .inl (by decide)
    obtain ⟨now, _, answered⟩ := handle_of_came (by decide) parsed_lost rfl
      (comes.eq_none_of_outlasts rests (by decide))
    exact ⟨_, answered, by decide +kernel⟩
  · have untimely : ¬ (alone (Deadline.lastMoment + 1) lost).HasDeadline 0 := by
      unfold HasDeadline
      exact Nat.not_le.mpr (Nat.lt_of_lt_of_eq (Nat.lt_succ_self _) (Nat.zero_add _).symm)
    rw [handle_of_not_hasDeadline untimely parsed_lost]
  · have course := comes_chainRun (Machine.fresh_start ()) (alone 10000 wordless)
      ((alone 10000 wordless).opened lostRequest none 0) none
      ((alone 10000 wordless).opened lostRequest none 0)
    have job : (alone 10000 wordless).chainJob none
        ((alone 10000 wordless).opened lostRequest none 0) =
          .ofOutcome (.ok ⟨.error (.application "lost" (.panic ⟨some "wordless"⟩)),
            .forMethod .get, (alone 10000 wordless).opened lostRequest none 0⟩) := rfl
    rw [job] at course
    obtain ⟨now, _, answered⟩ := handle_of_came (by decide) parsed_lost rfl
      (course.of_outcome (by decide))
    exact answered

end HttpService.Pipeline
