import HttpService.Pipeline.Answer
import HttpService.Proofs.Concurrency.Performing

/-!
Contract: the way of a request to its chain, and from its chain to the answer.

Owns:
- when a request can be given a deadline;
- where rewriting and routing lead a request, and what its chain is found to have come to by
  the deadline;
- what is done when the chain is done, as actions at one moment: the error is chosen, reported and
  written, and the response is reworked;
- that the program performs these actions.

Does not own: what answers are like.
-/

namespace HttpService.Pipeline

variable {World : Type}

/-- The clock can tell the deadline of a request that comes now. -/
def HasDeadline (pipeline : Pipeline World) (now : Nat) : Prop :=
  now + pipeline.config.writeTimeout ≤ Deadline.lastMoment

instance (pipeline : Pipeline World) (now : Nat) : Decidable (pipeline.HasDeadline now) :=
  Nat.decLe _ _

/-- A request that has been read, as it is answered: with the other end and the deadline. -/
def opened (pipeline : Pipeline World) (request : Request)
    (peer : Option Network.SocketAddress) (start : Nat) : Request :=
  { request with
    clientAddress := peer.map (·.ip.render)
    deadline := .after start pipeline.config.writeTimeout }

/-- Where rewriting and routing lead a request: the endpoint of its route, if it has one, and
the request that the chain is given. If rewriting fails, the error and the request as it is. -/
def directed (pipeline : Pipeline World) (request : Request) :
    Except (RequestError × Request) (Option (Endpoint World) × Request) :=
  let rewritten := pipeline.rewrites.rewrite request.target
  match rewritten.result with
  | .error error => .error (error, { request with target := rewritten.target })
  | .ok _ =>
      match pipeline.router.route? rewritten.target with
      | some (endpoint, target) => .ok (some endpoint, { request with target := target })
      | none => .ok (none, { request with target := rewritten.target })

/-- What the chain of a request is to do. -/
def chainJob (pipeline : Pipeline World) (endpoint : Option (Endpoint World)) (request : Request) :
    Job World (Outcome World) :=
  (pipeline.chain endpoint).proceed (.forMethod request.method) request

/-- The engine when the chain of a request is started. -/
def announced (pipeline : Pipeline World) (request : Request) (engine : Engine World) :
    Engine World :=
  engine.reportAll (pipeline.rewrites.rewrite request.target).reports

/-- Runs the chain of a request up to the deadline: what it is found to have come to. -/
def chainRun (pipeline : Pipeline World) (request : Request) (endpoint : Option (Endpoint World))
    (routed : Request) (engine : Engine World) :
    Option (Except Panic (Outcome World)) × Engine World :=
  (pipeline.announced request engine).attempt (pipeline.chainJob endpoint routed)
    (engine.clock + pipeline.config.writeTimeout)

/-! ## The way to the chain -/

theorem run_eq (pipeline : Pipeline World) (response : Response) (request : Request)
    (engine : Engine World) :
    pipeline.run response request engine =
      match pipeline.directed request with
      | .error (error, left) =>
          (.finished ⟨.error (.request error), response, left⟩,
            pipeline.announced request engine)
      | .ok (endpoint, routed) =>
          race (pipeline.chain endpoint) response routed (pipeline.announced request engine) := by
  unfold run directed announced
  simp only
  cases (pipeline.rewrites.rewrite request.target).result with
  | error error => rfl
  | ok _ =>
      cases pipeline.router.route? (pipeline.rewrites.rewrite request.target).target with
      | none => rfl
      | some found => rfl

section

variable {pipeline : Pipeline World} {request : Request}

/-- The chain is given the request with another target: what the route has left of it, if there
is one. -/
theorem retargeted_of_directed {endpoint : Option (Endpoint World)} {routed : Request}
    (directed : pipeline.directed request = .ok (endpoint, routed)) :
    ∃ target, routed = { request with target := target } ∧
      ∀ found, endpoint = some found →
        ∃ whole, pipeline.router.route? whole = some (found, target) := by
  unfold Pipeline.directed at directed
  simp only at directed
  split at directed
  · cases directed
  · split at directed
    · rename_i found rest route
      cases directed
      refine ⟨rest, rfl, ?_⟩
      rintro _ ⟨⟩
      exact ⟨_, route⟩
    · cases directed
      exact ⟨_, rfl, nofun⟩

/-- If rewriting fails, the request is left with another target. -/
theorem retargeted_of_misdirected {error : RequestError} {left : Request}
    (directed : pipeline.directed request = .error (error, left)) :
    ∃ target, left = { request with target := target } := by
  unfold Pipeline.directed at directed
  simp only at directed
  split at directed
  · cases directed
    exact ⟨_, rfl⟩
  · split at directed
    · cases directed
    · cases directed

theorem of_directed {endpoint : Option (Endpoint World)} {routed : Request}
    (directed : pipeline.directed request = .ok (endpoint, routed)) :
    routed.method = request.method ∧ routed.deadline = request.deadline := by
  obtain ⟨target, rfl, _⟩ := retargeted_of_directed directed
  exact ⟨rfl, rfl⟩

theorem method_of_misdirected {error : RequestError} {left : Request}
    (directed : pipeline.directed request = .error (error, left)) :
    left.method = request.method := by
  obtain ⟨target, rfl⟩ := retargeted_of_misdirected directed
  rfl

theorem run_misdirected {error : RequestError} {left : Request} {response : Response}
    {engine : Engine World} (directed : pipeline.directed request = .error (error, left)) :
    pipeline.run response request engine =
      (.finished ⟨.error (.request error), response, left⟩,
        pipeline.announced request engine) := by
  rw [run_eq, directed]

theorem run_directed {endpoint : Option (Endpoint World)} {routed : Request} {response : Response}
    {engine : Engine World} (directed : pipeline.directed request = .ok (endpoint, routed)) :
    pipeline.run response request engine =
      race (pipeline.chain endpoint) response routed (pipeline.announced request engine) := by
  rw [run_eq, directed]

end

theorem race_eq (chain : Chain World) (response : Response) (routed : Request)
    (engine : Engine World) :
    race chain response routed engine =
      match engine.attempt (chain.proceed response routed)
          (routed.deadline.moment.getD engine.clock) with
      | (some (.ok outcome), engine) => (.finished outcome, engine)
      | (some (.error payload), engine) => (.panicked payload response routed, engine)
      | (none, engine) =>
          (.finished ⟨.error .deadlineExceeded, response, routed⟩,
            engine.report .warn ("Request " ++ routed.method.token ++ " " ++ routed.path ++
              " exceeded its deadline")) :=
  rfl

/-! ## From the chain to the answer -/

/-- What the work on a request comes to: the error, if there is one, the response that it is to be
written on, and the request that is left. -/
abbrev Judgement (World : Type) := Option (HttpError World) × Response × Request

/-- What the work on a request comes to, by what its chain is found to have come to. After a panic,
and too late, the response and the request are those that the chain was given. -/
def judged (pipeline : Pipeline World) (given : Response) (routed : Request) :
    Option (Except Panic (Outcome World)) → Action World (Judgement World)
  | some (.ok ⟨.ok (), response, left⟩) => .pure (none, response, left)
  | some (.ok ⟨.error fault, response, left⟩) =>
      (fault.resolve pipeline.config.mapper).map fun error => (some error, response, left)
  | some (.error _) => .pure (some (.ofStatus .internalServerError), given, routed)
  | none =>
      (Fault.deadlineExceeded.resolve pipeline.config.mapper).map fun error =>
        (some error, given, routed)

/-- What the work on a request comes to, and the engine by then. -/
def worked (pipeline : Pipeline World) (request : Request) (engine : Engine World) :
    Action World (Judgement World) × Engine World :=
  match pipeline.directed request with
  | .error (error, left) =>
      (pipeline.judged (.forMethod request.method) left
        (some (.ok ⟨.error (.request error), .forMethod request.method, left⟩)), engine)
  | .ok (endpoint, routed) =>
      ((pipeline.judged (.forMethod request.method) routed
        (pipeline.chainRun request endpoint routed engine).1),
        (pipeline.chainRun request endpoint routed engine).2)

/-- What is done to report an error: that of the server is put into words. -/
def reported : Option (HttpError World) → Action World Unit
  | none => .pure ()
  | some error =>
      if error.status.isServerError then error.message.map fun _ => () else .pure ()

/-- The error is reported, and written on the response. -/
def writtenDown (parts : Judgement World) : Action World (Response × Request) :=
  (reported parts.1).map fun _ => (written parts.1 parts.2.1, parts.2.2)

/-- What the responder for its status makes of a response, if there is one. -/
def reworked (pipeline : Pipeline World) (response : Response) (request : Request) :
    Action World Response :=
  if response.status.isError then pipeline.responders.respond response request
  else .pure response

/-- The response is reworked, and loses its body after HEAD. -/
def delivered (pipeline : Pipeline World) (response : Response) (left : Request) :
    Action World Response :=
  (pipeline.reworked response left).map (withoutHeadBody left)

/-- The answer to a request, by what the work on it comes to. -/
def concluded (pipeline : Pipeline World) (parts : Judgement World) : Action World Response :=
  (writtenDown parts).bind fun (response, left) => pipeline.delivered response left

theorem concluded_eq (pipeline : Pipeline World) (error : Option (HttpError World))
    (response : Response) (left : Request) :
    pipeline.concluded (error, response, left) =
      (reported error).bind fun _ => pipeline.delivered (written error response) left :=
  Action.bind_map _ _ _

/-- What is concluded from a fault: its error is reported and written on the response. -/
theorem bind_concluded (pipeline : Pipeline World) (fault : Fault World) (response : Response)
    (left : Request) :
    ((fault.resolve pipeline.config.mapper).map fun error =>
        (some error, response, left)).bind pipeline.concluded =
      (fault.resolve pipeline.config.mapper).bind fun error =>
        (reported (some error)).bind fun _ =>
          pipeline.delivered (response.writeError error) left := by
  rw [Action.bind_map]
  simp only [concluded_eq]
  rfl

theorem reported_of_serverError {error : HttpError World}
    (own : error.status.isServerError = true) :
    reported (some error) = error.message.map fun _ => () :=
  if_pos own

theorem reported_of_not_serverError {error : HttpError World}
    (other : ¬ error.status.isServerError = true) : reported (some error) = .pure () :=
  if_neg other

section

variable (pipeline : Pipeline World)

theorem performs_reportError (request : Request) (error : HttpError World)
    (engine : Engine World) :
    engine.Performs (reported (some error)) (reportError request error engine) := by
  unfold reportError
  split
  · rename_i own
    rw [reported_of_serverError own]
    exact (engine.performs_perform error.message).andThen fun _ after =>
      (after.performs_pure ()).report _ _
  · rename_i other
    rw [reported_of_not_serverError other]
    exact engine.performs_pure ()

theorem performs_reportFailure (request : Request) (error : Option (HttpError World))
    (engine : Engine World) :
    engine.Performs (reported error) (pipeline.reportFailure request error engine) := by
  cases error with
  | none => exact engine.performs_pure ()
  | some error =>
      have further : ∀ after : Engine World,
          after.Performs (.pure ()) (.ok (), pipeline.reportBody request after) := by
        intro after
        unfold reportBody
        split
        · exact (after.performs_pure ()).report _ _
        · exact after.performs_pure ()
      have reports := (performs_reportError request error engine).andThen fun _ => further
      have same : ((reported (some error)).bind fun _ => .pure ()) = reported (some error) :=
        Action.bind_pure _
      rw [same] at reports
      exact reports

theorem performs_writtenDown (parts : Judgement World) (engine : Engine World) :
    engine.Performs (writtenDown parts)
      (Machine.andThen (pipeline.reportFailure parts.2.2 parts.1 engine) fun _ engine =>
        (.ok (written parts.1 parts.2.1, parts.2.2), engine)) :=
  (pipeline.performs_reportFailure parts.2.2 parts.1 engine).andThen fun _ after =>
    after.performs_pure _

theorem performs_deliverTo (response : Response) (left : Request) (engine : Engine World) :
    engine.Performs (pipeline.delivered response left)
      (pipeline.deliverTo response left engine) := by
  have applies : engine.Performs (pipeline.reworked response left)
      (pipeline.applyResponder response left engine) := by
    unfold reworked applyResponder
    split
    · exact engine.performs_perform _
    · exact engine.performs_pure response
  exact applies.andThen fun _ after => (after.performs_pure _).report _ _

theorem performs_judge (given : Response) (routed : Request) (outcome : Outcome World)
    (engine : Engine World) :
    engine.Performs (pipeline.judged given routed (some (.ok outcome)))
      (pipeline.judge (.finished outcome) engine) := by
  obtain ⟨verdict, response, left⟩ := outcome
  cases verdict with
  | ok _ => exact engine.performs_pure _
  | error fault => exact engine.performs_perform _

/-- What a race comes to is judged by what the chain is found to have come to. -/
theorem performs_judge_race (chain : Chain World) (given : Response) (routed : Request)
    (engine : Engine World) {came : Option (Except Panic (Outcome World))} {after : Engine World}
    (attempted : engine.attempt (chain.proceed given routed)
      (routed.deadline.moment.getD engine.clock) = (came, after)) :
    after.Performs (pipeline.judged given routed came)
      (pipeline.judge (race chain given routed engine).1 (race chain given routed engine).2) := by
  rw [race_eq, attempted]
  cases came with
  | none =>
      have judges := pipeline.performs_judge given routed ⟨.error .deadlineExceeded, given, routed⟩
        (after.report .warn ("Request " ++ routed.method.token ++ " " ++ routed.path ++
          " exceeded its deadline"))
      exact judges.behind_report
  | some ended =>
      cases ended with
      | ok outcome => exact pipeline.performs_judge given routed outcome after
      | error payload => exact (after.performs_pure _).report _ _

end

section

variable {pipeline : Pipeline World} {request : Request} {peer : Option Network.SocketAddress}
  {engine : Engine World}

theorem worked_misdirected {error : RequestError} {left : Request}
    (directed : pipeline.directed request = .error (error, left)) :
    pipeline.worked request engine =
      (pipeline.judged (.forMethod request.method) left
        (some (.ok ⟨.error (.request error), .forMethod request.method, left⟩)), engine) := by
  unfold worked
  rw [directed]

/-- The work on all other requests is judged by what their chain is found to have come to. -/
theorem worked_directed {routed : Request} {endpoint : Option (Endpoint World)}
    {came : Option (Except Panic (Outcome World))} {after : Engine World}
    (directed : pipeline.directed request = .ok (endpoint, routed))
    (ran : pipeline.chainRun request endpoint routed engine = (came, after)) :
    pipeline.worked request engine =
      (pipeline.judged (.forMethod request.method) routed came, after) := by
  unfold worked
  rw [directed]
  simp only [ran]

/-- What has been worked on is judged. -/
theorem performs_judge_run (pipeline : Pipeline World) (request : Request)
    (peer : Option Network.SocketAddress) (engine : Engine World) :
    (pipeline.worked (pipeline.opened request peer engine.clock) engine).2.Performs
      (pipeline.worked (pipeline.opened request peer engine.clock) engine).1
      (pipeline.judge
        (pipeline.run (.forMethod request.method) (pipeline.opened request peer engine.clock)
          engine).1
        (pipeline.run (.forMethod request.method) (pipeline.opened request peer engine.clock)
          engine).2) := by
  cases way : pipeline.directed (pipeline.opened request peer engine.clock) with
  | error failure =>
      obtain ⟨error, left⟩ := failure
      rw [worked_misdirected way, run_misdirected way]
      have judges := pipeline.performs_judge (.forMethod request.method) left
        ⟨.error (.request error), .forMethod request.method, left⟩
        (pipeline.announced (pipeline.opened request peer engine.clock) engine)
      exact judges.behind_reportAll
  | ok found =>
      obtain ⟨endpoint, routed⟩ := found
      obtain ⟨sameMethod, sameDeadline⟩ := of_directed way
      have method : routed.method = request.method := sameMethod
      have moment : routed.deadline.moment = some (engine.clock + pipeline.config.writeTimeout) := by
        rw [sameDeadline]
        rfl
      cases ran : pipeline.chainRun (pipeline.opened request peer engine.clock) endpoint routed
          engine with
      | mk came after =>
          rw [worked_directed way ran, run_directed way]
          refine pipeline.performs_judge_race (pipeline.chain endpoint) (.forMethod request.method)
            routed _ ?_
          rw [moment, Option.getD_some, ← method]
          exact ran

theorem prepare_of_hasDeadline (timely : pipeline.HasDeadline engine.clock) (request : Request)
    (peer : Option Network.SocketAddress) :
    pipeline.prepare request peer engine =
      Machine.andThen
        (pipeline.judge
          (pipeline.run (.forMethod request.method) (pipeline.opened request peer engine.clock)
            engine).1
          (pipeline.run (.forMethod request.method) (pipeline.opened request peer engine.clock)
            engine).2)
        fun parts engine =>
          Machine.andThen (pipeline.reportFailure parts.2.2 parts.1 engine) fun _ engine =>
            (.ok (written parts.1 parts.2.1, parts.2.2), engine) := by
  have moment : Deadline.after? engine.clock pipeline.config.writeTimeout =
      some (.after engine.clock pipeline.config.writeTimeout) := if_pos timely
  unfold prepare
  rw [moment]
  rfl

/-- A request is worked on, and its error is written down. -/
theorem performs_prepare (timely : pipeline.HasDeadline engine.clock) (request : Request)
    (peer : Option Network.SocketAddress) :
    (pipeline.worked (pipeline.opened request peer engine.clock) engine).2.Performs
      ((pipeline.worked (pipeline.opened request peer engine.clock) engine).1.bind writtenDown)
      (pipeline.prepare request peer engine) := by
  rw [prepare_of_hasDeadline timely]
  exact (pipeline.performs_judge_run request peer engine).andThen pipeline.performs_writtenDown

/-- Without a deadline a request is not worked on. -/
theorem prepare_of_not_hasDeadline (untimely : ¬ pipeline.HasDeadline engine.clock)
    (request : Request) (peer : Option Network.SocketAddress) :
    pipeline.prepare request peer engine = (.error deadlineTooFar, engine) := by
  have moment : Deadline.after? engine.clock pipeline.config.writeTimeout = none := if_neg untimely
  unfold prepare
  rw [moment]

/-- A request is answered with what is concluded from what the work on it comes to. -/
theorem performs_answer (timely : pipeline.HasDeadline engine.clock) (request : Request)
    (peer : Option Network.SocketAddress) :
    (pipeline.worked (pipeline.opened request peer engine.clock) engine).2.Performs
      ((pipeline.worked (pipeline.opened request peer engine.clock) engine).1.bind
        pipeline.concluded)
      (pipeline.answer request peer engine) := by
  have performs := (performs_prepare timely request peer).andThen fun parts after =>
    pipeline.performs_deliverTo parts.1 parts.2 after
  rw [Action.bind_assoc] at performs
  exact performs

theorem handle_parsed {raw : Bytes}
    (parsed : Wire.readRequest raw pipeline.config.maxBody = .ok request) :
    pipeline.handle raw peer engine = pipeline.answer request peer engine := by
  unfold handle
  rw [parsed]

/-- **What octets are answered with that are a request.** -/
theorem performs_handle {raw : Bytes} {action : Action World (Judgement World)}
    {after : Engine World} (timely : pipeline.HasDeadline engine.clock)
    (parsed : Wire.readRequest raw pipeline.config.maxBody = .ok request)
    (works : pipeline.worked (pipeline.opened request peer engine.clock) engine = (action, after)) :
    after.Performs (action.bind pipeline.concluded) (pipeline.handle raw peer engine) := by
  have performs := performs_answer timely request peer
  rw [works] at performs
  rw [handle_parsed parsed]
  exact performs

/-- What is made of a request, in terms of what its chain is found to have come to. -/
theorem prepare_of_came {endpoint : Option (Endpoint World)} {routed : Request}
    {came : Option (Except Panic (Outcome World))} (timely : pipeline.HasDeadline engine.clock)
    (directed : pipeline.directed (pipeline.opened request peer engine.clock) =
      .ok (endpoint, routed))
    (found : (pipeline.chainRun (pipeline.opened request peer engine.clock) endpoint routed
      engine).1 = came) :
    ∃ now world, (pipeline.prepare request peer engine).1 =
      ((pipeline.judged (.forMethod request.method) routed came).bind writtenDown now world).1 := by
  have performs := performs_prepare timely request peer
  rw [worked_directed directed (Prod.ext found rfl)] at performs
  exact ⟨_, _, performs.result⟩

/-- The answer to a request in terms of what its chain is found to have come to. -/
theorem handle_of_came {raw : Bytes} {endpoint : Option (Endpoint World)} {routed : Request}
    {came : Option (Except Panic (Outcome World))} (timely : pipeline.HasDeadline engine.clock)
    (parsed : Wire.readRequest raw pipeline.config.maxBody = .ok request)
    (directed : pipeline.directed (pipeline.opened request peer engine.clock) =
      .ok (endpoint, routed))
    (found : (pipeline.chainRun (pipeline.opened request peer engine.clock) endpoint routed
      engine).1 = came) :
    ∃ now world, (pipeline.handle raw peer engine).1 =
      ((pipeline.judged (.forMethod request.method) routed came).bind pipeline.concluded now
        world).1 :=
  ⟨_, _, (performs_handle timely parsed (worked_directed directed (Prod.ext found rfl))).result⟩

theorem handle_of_not_hasDeadline {raw : Bytes} (untimely : ¬ pipeline.HasDeadline engine.clock)
    (parsed : Wire.readRequest raw pipeline.config.maxBody = .ok request) :
    pipeline.handle raw peer engine = (.error deadlineTooFar, engine) := by
  rw [handle_parsed parsed]
  unfold answer
  rw [prepare_of_not_hasDeadline untimely]
  rfl

/-- A request that has been answered had a deadline. -/
theorem hasDeadline_of_handle {raw : Bytes} {response : Response}
    (parsed : Wire.readRequest raw pipeline.config.maxBody = .ok request)
    (answered : (pipeline.handle raw peer engine).1 = .ok response) :
    pipeline.HasDeadline engine.clock := by
  rcases Decidable.em (pipeline.HasDeadline engine.clock) with timely | untimely
  · exact timely
  · rw [handle_of_not_hasDeadline untimely parsed] at answered
    cases answered

/-- If there is a response, the work on the request has come to something that it is concluded
from. -/
theorem exists_judged {raw : Bytes} {endpoint : Option (Endpoint World)} {routed : Request}
    {came : Option (Except Panic (Outcome World))} {after : Engine World} {got : Response}
    (parsed : Wire.readRequest raw pipeline.config.maxBody = .ok request)
    (directed : pipeline.directed (pipeline.opened request peer engine.clock) =
      .ok (endpoint, routed))
    (ran : pipeline.chainRun (pipeline.opened request peer engine.clock) endpoint routed engine =
      (came, after))
    (answered : (pipeline.handle raw peer engine).1 = .ok got) :
    ∃ error response left later,
      (pipeline.judged (.forMethod request.method) routed came after.clock after.world).1 =
          .ok (error, response, left) ∧
        (pipeline.concluded (error, response, left) after.clock later).1 = .ok got := by
  have timely := hasDeadline_of_handle parsed answered
  have result := (performs_handle timely parsed (worked_directed directed ran)).result
  obtain ⟨⟨error, response, left⟩, later, came, concludes⟩ :=
    Action.exists_of_bind_ok (result.symm.trans answered)
  exact ⟨error, response, left, later, congrArg Prod.fst came, concludes⟩

end

theorem mem_entries_of_find? {responders : Responders World} {status : Status}
    {responder : Responder World} (found : responders.find? status = some responder) :
    (status, responder) ∈ responders.entries := by
  obtain ⟨front, back, entries, _⟩ := List.lookup_eq_some_iff.mp found
  rw [entries]
  exact List.mem_append_right front List.mem_cons_self

theorem comes_chainRun {engine : Engine World} (fresh : engine.Fresh) (pipeline : Pipeline World)
    (request : Request) (endpoint : Option (Endpoint World)) (routed : Request) :
    (pipeline.chainJob endpoint routed).Comes engine.clock
      (engine.clock + pipeline.config.writeTimeout)
      (pipeline.chainRun request endpoint routed engine).1 :=
  (fresh.reportAll _).comes_attempt (pipeline.chainJob endpoint routed) _

end HttpService.Pipeline
