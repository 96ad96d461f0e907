import Mathlib.Tactic.Common
import HttpService.Proofs.Pipeline.Answering

/-!
Contract: what an answer keeps of a chain, in time and too late.

Owns:
- services that differ only in what the deadline covers;
- **a late chain leaves nothing in the answer**, with two chains that do not even agree on
  what they share with the responder;
- an outcome in time is answered as the chain has produced it.

Does not own: chains that panic.
-/

namespace HttpService.Pipeline

variable {World : Type}

/-- A request is given a deadline, its chain is given one request, and is found to have come to
something by the deadline. -/
def Came (pipeline : Pipeline World) (request : Request) (peer : Option Network.SocketAddress)
    (engine : Engine World) (routed : Request) (came : Option (Except Panic (Outcome World))) :
    Prop :=
  pipeline.HasDeadline engine.clock ∧ ∃ endpoint,
    pipeline.directed (pipeline.opened request peer engine.clock) = .ok (endpoint, routed) ∧
      (pipeline.chainRun (pipeline.opened request peer engine.clock) endpoint routed engine).1 =
        came

/-- Two services that agree on all but their middleware and the endpoints of their routes. -/
structure Alike (first second : Pipeline World) : Prop where
  config : second.config = first.config
  rewrites : second.rewrites = first.rewrites
  responders : second.responders = first.responders
  routes : ∀ target,
    (second.router.route? target).map (·.2) = (first.router.route? target).map (·.2)

/-- A service in which nothing that answers for a late chain sees what is shared with others: neither
the mapper, nor the wording of the error that it makes, nor a responder. -/
structure Oblivious (pipeline : Pipeline World) : Prop where
  mapper : (Fault.deadlineExceeded.resolve pipeline.config.mapper).Oblivious
  wording : ∀ now world error,
    (Fault.deadlineExceeded.resolve pipeline.config.mapper now world).1 = .ok error →
      (reported (some error)).Oblivious
  responders : ∀ entry ∈ pipeline.responders.entries, ∀ response request,
    (entry.2 response request).Oblivious

/-- The answer to a request whose chain is late: the error for this is reported and written on the
response that the chain was given, which is reworked by the responder and, after HEAD, loses its
body. -/
def lateAnswer (pipeline : Pipeline World) (routed : Request) : Action World Response :=
  (Fault.deadlineExceeded.resolve pipeline.config.mapper).bind fun error =>
    (reported (some error)).bind fun _ =>
      pipeline.delivered ((Response.forMethod routed.method).writeError error) routed

/-- The answer to a request whose chain has ended in time. -/
def inTimeAnswer (pipeline : Pipeline World) (outcome : Outcome World) : Action World Response :=
  match outcome.verdict with
  | .ok () => pipeline.delivered outcome.response outcome.request
  | .error fault =>
      (fault.resolve pipeline.config.mapper).bind fun error =>
        (reported (some error)).bind fun _ =>
          pipeline.delivered (outcome.response.writeError error) outcome.request

section

variable {pipeline : Pipeline World} {raw : Bytes} {request routed : Request}
  {peer : Option Network.SocketAddress} {engine : Engine World}

/-- A late chain leaves nothing in the answer but what it shares with those who make it. -/
theorem handle_late {endpoint : Option (Endpoint World)} {after : Engine World}
    (timely : pipeline.HasDeadline engine.clock)
    (parsed : Wire.readRequest raw pipeline.config.maxBody = .ok request)
    (directed : pipeline.directed (pipeline.opened request peer engine.clock) =
      .ok (endpoint, routed))
    (ran : pipeline.chainRun (pipeline.opened request peer engine.clock) endpoint routed engine =
      (none, after)) :
    (pipeline.handle raw peer engine).1 =
      (pipeline.lateAnswer routed (engine.clock + pipeline.config.writeTimeout) after.world).1 := by
  have method : routed.method = request.method := (of_directed directed).1
  have waited := Machine.clock_attempt (congrArg Prod.fst ran)
  have clock : (pipeline.chainRun (pipeline.opened request peer engine.clock) endpoint routed
      engine).2.clock = engine.clock + pipeline.config.writeTimeout :=
    waited.trans (Nat.max_eq_right (Nat.le_add_right _ _))
  rw [ran] at clock
  have clock : after.clock = engine.clock + pipeline.config.writeTimeout := clock
  have works := worked_directed directed ran
  have answered := (performs_handle timely parsed works).result
  have made : (pipeline.judged (.forMethod request.method) routed none).bind pipeline.concluded =
      pipeline.lateAnswer routed := by
    rw [← method]
    exact pipeline.bind_concluded .deadlineExceeded _ routed
  rw [clock] at answered
  exact answered.trans (by rw [← made]; rfl)

theorem Came.handle_late (late : pipeline.Came request peer engine routed none)
    (parsed : Wire.readRequest raw pipeline.config.maxBody = .ok request) :
    ∃ world, (pipeline.handle raw peer engine).1 =
      (pipeline.lateAnswer routed (engine.clock + pipeline.config.writeTimeout) world).1 := by
  obtain ⟨timely, endpoint, directed, came⟩ := late
  exact ⟨_, Pipeline.handle_late timely parsed directed (Prod.ext came rfl)⟩

theorem handle_inTime {outcome : Outcome World}
    (parsed : Wire.readRequest raw pipeline.config.maxBody = .ok request)
    (inTime : pipeline.Came request peer engine routed (some (.ok outcome))) :
    ∃ now world, (pipeline.handle raw peer engine).1 =
      (pipeline.inTimeAnswer outcome now world).1 := by
  obtain ⟨timely, endpoint, directed, came⟩ := inTime
  obtain ⟨now, world, answered⟩ := handle_of_came timely parsed directed came
  have made : (pipeline.judged (.forMethod request.method) routed (some (.ok outcome))).bind
      pipeline.concluded = pipeline.inTimeAnswer outcome := by
    obtain ⟨verdict, response, left⟩ := outcome
    cases verdict with
    | ok _ => rfl
    | error fault => exact pipeline.bind_concluded fault response left
  rw [made] at answered
  exact ⟨now, world, answered⟩

theorem reaches_of_came (fresh : engine.Fresh) {outcome : Outcome World}
    (inTime : pipeline.Came request peer engine routed (some (.ok outcome))) :
    ∃ endpoint now,
      pipeline.directed (pipeline.opened request peer engine.clock) = .ok (endpoint, routed) ∧
        During engine.clock (engine.clock + pipeline.config.writeTimeout) now ∧
          (pipeline.chainJob endpoint routed).Reaches engine.clock (.done outcome) now := by
  obtain ⟨_, endpoint, directed, came⟩ := inTime
  have comes := comes_chainRun fresh pipeline (pipeline.opened request peer engine.clock) endpoint
    routed
  rw [came] at comes
  cases comes with
  | ended during reached => exact ⟨endpoint, _, directed, during, reached⟩

theorem Oblivious.reworked (oblivious : pipeline.Oblivious) (response : Response)
    (request : Request) : (pipeline.reworked response request).Oblivious := by
  unfold Pipeline.reworked
  split
  · unfold Responders.respond
    cases found : pipeline.responders.find? response.status with
    | none => exact Action.oblivious_pure response
    | some responder => exact oblivious.responders _ (mem_entries_of_find? found) response request
  · exact Action.oblivious_pure response

theorem Oblivious.lateAnswer (oblivious : pipeline.Oblivious) (routed : Request) :
    (pipeline.lateAnswer routed).Oblivious := by
  refine oblivious.mapper.bind fun now world error resolved => ?_
  refine (oblivious.wording now world error resolved).bind fun _ _ _ _ => ?_
  exact (oblivious.reworked _ routed).map _

end

section

variable {first second : Pipeline World} {raw : Bytes} {request : Request}
  {peer : Option Network.SocketAddress}

/-- Services that are alike lead a request to the same request for the chain. -/
theorem Alike.directed (alike : Alike first second) {endpoint other : Option (Endpoint World)}
    {routed kept : Request} (firstWay : first.directed request = .ok (endpoint, routed))
    (secondWay : second.directed request = .ok (other, kept)) : kept = routed := by
  have routes := alike.routes (first.rewrites.rewrite request.target).target
  unfold Pipeline.directed at firstWay secondWay
  rw [alike.rewrites] at secondWay
  simp only at firstWay secondWay
  cases result : (first.rewrites.rewrite request.target).result with
  | error error =>
      rw [result] at firstWay
      cases firstWay
  | ok _ =>
      rw [result] at firstWay secondWay
      simp only at firstWay secondWay
      -- The routes agree, so that both services have one for the target or neither has.
      revert routes firstWay secondWay
      cases first.router.route? (first.rewrites.rewrite request.target).target with
      | none =>
          cases second.router.route? (first.rewrites.rewrite request.target).target with
          | none =>
              intro _ firstWay secondWay
              cases firstWay
              cases secondWay
              rfl
          | some found =>
              intro routes
              cases routes
      | some found =>
          cases second.router.route? (first.rewrites.rewrite request.target).target with
          | none =>
              intro routes
              cases routes
          | some other =>
              intro routes firstWay secondWay
              have targets : other.2 = found.2 := Option.some.inj routes
              cases firstWay
              cases secondWay
              rw [targets]

theorem Alike.opened (alike : Alike first second) (start : Nat) :
    second.opened request peer start = first.opened request peer start := by
  unfold Pipeline.opened
  rw [alike.config]

theorem Alike.lateAnswer (alike : Alike first second) (routed : Request) :
    second.lateAnswer routed = first.lateAnswer routed := by
  unfold Pipeline.lateAnswer delivered reworked
  rw [alike.config, alike.responders]

/-- **What an answer keeps of a chain.** If the chains of two services are late that differ only
in what the deadline covers, both answer a request that comes at the same time with the error for
this on the response that the chain was given, reworked by the responder and, after HEAD, without
its body; these answers are the same unless the mapper, the wording of its error or the responder
sees what it shares with the chains. If a chain has ended in time, its response and its request are
the ones that are answered with. -/
theorem handle_keeps (alike : Alike first second)
    (parsed : Wire.readRequest raw first.config.maxBody = .ok request)
    {engine other : Engine World} (sameTime : other.clock = engine.clock)
    (fresh : engine.Fresh) :
    (∀ routed kept, first.Came request peer engine routed none →
        second.Came request peer other kept none →
          kept = routed ∧
          (∃ world later,
            (first.handle raw peer engine).1 =
                (first.lateAnswer routed (engine.clock + first.config.writeTimeout) world).1 ∧
              (second.handle raw peer other).1 =
                (first.lateAnswer routed (engine.clock + first.config.writeTimeout) later).1) ∧
          (first.Oblivious →
            (second.handle raw peer other).1 = (first.handle raw peer engine).1)) ∧
      ∀ routed outcome, first.Came request peer engine routed (some (.ok outcome)) →
        (∃ endpoint now,
          first.directed (first.opened request peer engine.clock) = .ok (endpoint, routed) ∧
            During engine.clock (engine.clock + first.config.writeTimeout) now ∧
              (first.chainJob endpoint routed).Reaches engine.clock (.done outcome) now) ∧
        ∃ now world,
          (first.handle raw peer engine).1 = (first.inTimeAnswer outcome now world).1 := by
  constructor
  · intro routed kept firstLate secondLate
    have parsedToo : Wire.readRequest raw second.config.maxBody = .ok request := by
      rw [alike.config]
      exact parsed
    obtain ⟨world, firstAnswer⟩ := firstLate.handle_late parsed
    obtain ⟨later, secondAnswer⟩ := secondLate.handle_late parsedToo
    rw [alike.lateAnswer, sameTime, alike.config] at secondAnswer
    obtain ⟨_, endpoint, firstWay, _⟩ := firstLate
    obtain ⟨_, otherEndpoint, secondWay, _⟩ := secondLate
    rw [sameTime, alike.opened] at secondWay
    have same := alike.directed firstWay secondWay
    subst same
    refine ⟨rfl, ⟨world, later, firstAnswer, secondAnswer⟩, ?_⟩
    intro oblivious
    rw [firstAnswer, secondAnswer]
    exact oblivious.lateAnswer _ _ later world
  · intro routed outcome inTime
    exact ⟨reaches_of_came fresh inTime, handle_inTime parsed inTime⟩

end

/-! ## Chains that rest beyond the deadline -/

/-- A service whose middleware changes what is shared, and then rests for long. -/
def resting (change : Nat → Nat) (mapper : Option (FaultMapper Nat))
    (responders : Responders Nat) : Pipeline Nat :=
  ⟨{ Config.default with writeTimeout := 50, mapper := mapper }, .empty, .empty,
    [fun chain response request =>
      .act (fun _ world => change world) fun _ _ =>
        .sleep 100 (chain.proceed (response.setHeader "X-Trace" "late") request)],
    responders⟩

/-- Responders that tell what is shared. -/
def telling : Responders Nat :=
  .insert .empty .serviceUnavailable fun response _ _ world =>
    (.ok (response.setText (toString world)), world)

/-- A mapper that tells what is shared. -/
def tellingMapper : FaultMapper Nat :=
  fun _ _ world =>
    (.ok (some ((HttpError.ofStatus .serviceUnavailable).withMessage (toString world))), world)

/-- A mapper whose error can only be put into words if nothing has been changed. -/
def wordingMapper : FaultMapper Nat :=
  fun _ => .pure (some ((HttpError.ofStatus .serviceUnavailable).withCause
    (.application "late" fun _ world => (if world = 0 then .ok "late" else .error ⟨none⟩, world))))

/-- A request for one of these services. -/
def askRequest (method : Method) : Request :=
  .make method ⟨["a"], none, "/a", false, [], .empty⟩ (Headers.empty.append "Host" "x") []

section

variable (change other : Nat → Nat) (mapper : Option (FaultMapper Nat))
  (responders : Responders Nat) (method : Method)

theorem chainRun_resting :
    ∃ after : Engine Nat, after.world = change 0 ∧
      (resting change mapper responders).chainRun
        ((resting change mapper responders).opened (askRequest method) none 0) none
        ((resting change mapper responders).opened (askRequest method) none 0) (.start 0) =
          (none, after) := by
  unfold chainRun Machine.attempt
  rw [Machine.await_eq_pass (show turnAllowance ≠ 0 by decide) (show 0 < 50 by decide),
    Machine.pass]
  split
  · rename_i stuck
    cases stuck
  · rename_i task rest turn
    cases turn
    split
    rename_i taken
    cases taken
    simp only [Job.Progress.outcome?]
    rw [Machine.pass]
    split
    · exact ⟨_, rfl, rfl⟩
    · rename_i turn
      cases turn

theorem hasDeadline_resting : (resting change mapper responders).HasDeadline 0 := by
  show 0 + 50 ≤ Deadline.lastMoment
  decide

theorem came_resting :
    (resting change mapper responders).Came (askRequest method) none (.start 0)
      ((resting change mapper responders).opened (askRequest method) none 0) none := by
  obtain ⟨after, _, ran⟩ := chainRun_resting change mapper responders method
  exact ⟨hasDeadline_resting change mapper responders, none, rfl, congrArg Prod.fst ran⟩

theorem alike_resting :
    Alike (resting change mapper responders) (resting other mapper responders) :=
  ⟨rfl, rfl, rfl, fun _ => rfl⟩

/-- The octets of such a request. -/
def askBytes : Bytes :=
  Utf8.encode (method.token ++ " /a HTTP/1.1\r\nHost: x\r\n\r\n")

/-- Such a request is answered with what is made of the lateness of its chain. -/
theorem handle_resting {method : Method}
    (parsed : Wire.readRequest (askBytes method) Wire.defaultMaxBody = .ok (askRequest method)) :
    ((resting change mapper responders).handle (askBytes method) none (.start 0)).1 =
      ((resting change mapper responders).lateAnswer
        ((resting change mapper responders).opened (askRequest method) none 0) 50 (change 0)).1 := by
  obtain ⟨after, world, ran⟩ := chainRun_resting change mapper responders method
  have answered := handle_late (hasDeadline_resting change mapper responders) parsed rfl ran
  rw [world] at answered
  exact answered

end

theorem parsed_ask_head : Wire.readRequest (askBytes .head) Wire.defaultMaxBody =
    .ok (askRequest .head) := by
  decide +kernel

theorem parsed_ask_get : Wire.readRequest (askBytes .get) Wire.defaultMaxBody =
    .ok (askRequest .get) := by
  decide +kernel

theorem handle_keeps_resting :
    Alike (resting (· + 1) none .empty) (resting id none .empty) ∧
      Wire.readRequest (askBytes .get) (resting (· + 1) none .empty).config.maxBody =
        .ok (askRequest .get) ∧
      (Machine.start 0 : Engine Nat).Fresh ∧
      ((resting id none .empty).handle (askBytes .get) none (.start 0)).1 =
        ((resting (· + 1) none .empty).handle (askBytes .get) none (.start 0)).1 := by
  have fresh : (Machine.start 0 : Engine Nat).Fresh := Machine.fresh_start 0
  have alike := alike_resting (· + 1) id none .empty
  have oblivious : (resting (· + 1) none .empty).Oblivious := by
    refine ⟨Action.oblivious_pure _, ?_, nofun⟩
    intro now world error resolved
    cases resolved
    exact (Action.oblivious_pure _).map _
  have kept := (handle_keeps alike parsed_ask_get rfl fresh).1 _ _
    (came_resting (· + 1) none .empty .get) (came_resting id none .empty .get)
  exact ⟨alike, parsed_ask_get, fresh, kept.2.2 oblivious⟩

/-- Two services that are alike, whose chains are late, and whose answers are not the same. -/
def ToldApart (first second : Pipeline Nat) : Prop :=
  Alike first second ∧
    first.Came (askRequest .get) none (.start 0) (first.opened (askRequest .get) none 0) none ∧
    second.Came (askRequest .get) none (.start 0) (second.opened (askRequest .get) none 0) none ∧
    (first.handle (askBytes .get) none (.start 0)).1 ≠
      (second.handle (askBytes .get) none (.start 0)).1

theorem toldApart_resting {mapper : Option (FaultMapper Nat)} {responders : Responders Nat}
    (differ : ((resting (· + 1) mapper responders).lateAnswer
        ((resting (· + 1) mapper responders).opened (askRequest .get) none 0) 50 1).1 ≠
      ((resting id mapper responders).lateAnswer
        ((resting id mapper responders).opened (askRequest .get) none 0) 50 0).1) :
    ToldApart (resting (· + 1) mapper responders) (resting id mapper responders) := by
  refine ⟨alike_resting _ _ _ _, came_resting _ _ _ _, came_resting _ _ _ _, ?_⟩
  rw [handle_resting (· + 1) mapper responders parsed_ask_get,
    handle_resting id mapper responders parsed_ask_get]
  exact differ

/-- After HEAD the answer to a late chain is not the error as it is written. Mappers, errors and
responders that see what they share with the chains tell them apart. -/
theorem lateAnswers_differ :
    ((resting id none .empty).Came (askRequest .head) none (.start 0)
        ((resting id none .empty).opened (askRequest .head) none 0) none ∧
      ∀ error now world,
        (Fault.deadlineExceeded.resolve (resting id none .empty).config.mapper now world).1 =
            .ok error →
          ((resting id none .empty).handle (askBytes .head) none (.start 0)).1 ≠
            .ok ((Response.forMethod .head).writeError error)) ∧
      ToldApart (resting (· + 1) (some tellingMapper) .empty)
        (resting id (some tellingMapper) .empty) ∧
      ToldApart (resting (· + 1) (some wordingMapper) .empty)
        (resting id (some wordingMapper) .empty) ∧
      ToldApart (resting (· + 1) none telling) (resting id none telling) := by
  refine ⟨⟨came_resting id none .empty .head, ?_⟩, toldApart_resting ?_, toldApart_resting ?_,
    toldApart_resting ?_⟩
  · intro error now world resolved
    cases resolved
    rw [handle_resting id none .empty parsed_ask_head]
    decide +kernel
  · decide +kernel
  · decide +kernel
  · decide +kernel

end HttpService.Pipeline
