import HttpService.Proofs.Pipeline.Containment

/-!
Contract: an answer in two stages, the reply and its delivery.

Owns:
- the reply to the octets of a request, as it stands before a responder may rework it;
- its delivery: the responder for its status, and HEAD;
- **an answer is the delivery of the reply**, with all that either leaves behind;
- the request that goes with a reply;
- that there is an answer to every request that has a deadline and an error that can be put into
  words, if neither the mapper nor a responder panics.

Does not own: what any reply is like.
-/

namespace HttpService.Pipeline

variable {World : Type}

/-- A response, and the request that it replies to as the work on it has left it. Octets that
are no request have none. -/
structure Reply where
  response : Response
  request : Option Request

/-- The reply to the octets of a request. -/
def reply (pipeline : Pipeline World) (raw : Bytes) (peer : Option Network.SocketAddress)
    (engine : Engine World) : Except Panic Reply × Engine World :=
  match Wire.readRequest raw pipeline.config.maxBody with
  | .error error =>
      (.ok ⟨rejection (.ofRequestError error), none⟩,
        engine.report .warn
          ("Rejected request from " ++ describePeer peer ++ ": " ++ error.wording))
  | .ok request =>
      Machine.andThen (pipeline.prepare request peer engine) fun (response, left) engine =>
        (.ok ⟨response, some left⟩, engine)

/-- Delivers a reply. One to octets that are no request is sent as it is. -/
def deliver (pipeline : Pipeline World) (replied : Except Panic Reply × Engine World) :
    Except Panic Response × Engine World :=
  Machine.andThen replied fun reply engine =>
    match reply with
    | ⟨response, none⟩ => (.ok response, engine)
    | ⟨response, some left⟩ => pipeline.deliverTo response left engine

/-- **An answer is the delivery of the reply.** -/
theorem handle_eq_deliver (pipeline : Pipeline World) (raw : Bytes)
    (peer : Option Network.SocketAddress) (engine : Engine World) :
    pipeline.handle raw peer engine = pipeline.deliver (pipeline.reply raw peer engine) := by
  unfold handle reply deliver
  cases Wire.readRequest raw pipeline.config.maxBody with
  | error error => rfl
  | ok request =>
      unfold answer
      simp only
      cases pipeline.prepare request peer engine with
      | mk prepared after =>
          cases prepared with
          | error payload => rfl
          | ok parts => rfl

section

variable {pipeline : Pipeline World} {raw : Bytes} {request : Request}
  {peer : Option Network.SocketAddress} {engine : Engine World}

theorem reply_of_readRequest (peer : Option Network.SocketAddress) (engine : Engine World)
    (parsed : Wire.readRequest raw pipeline.config.maxBody = .ok request) :
    pipeline.reply raw peer engine =
      ((pipeline.prepare request peer engine).1.map fun parts => ⟨parts.1, some parts.2⟩,
        (pipeline.prepare request peer engine).2) := by
  unfold reply
  rw [parsed]
  simp only
  cases pipeline.prepare request peer engine with
  | mk prepared after =>
      cases prepared with
      | error payload => rfl
      | ok parts => rfl

theorem reply_of_readRequest_eq_error (peer : Option Network.SocketAddress)
    (engine : Engine World) {error : RequestError}
    (refused : Wire.readRequest raw pipeline.config.maxBody = .error error) :
    (pipeline.reply raw peer engine).1 = .ok ⟨rejection (.ofRequestError error), none⟩ ∧
      pipeline.handle raw peer engine =
        (.ok (rejection (.ofRequestError error)), (pipeline.reply raw peer engine).2) := by
  rw [handle_eq_deliver]
  unfold reply
  rw [refused]
  exact ⟨rfl, rfl⟩

/-- A request has a reply that goes with it, and only a request has one. -/
theorem request_of_reply {built : Reply} {before : Engine World}
    (replied : pipeline.reply raw peer engine = (.ok built, before)) :
    built.request.isSome = true ↔
      ∃ request, Wire.readRequest raw pipeline.config.maxBody = .ok request := by
  cases read : Wire.readRequest raw pipeline.config.maxBody with
  | error error =>
      have rejected := (reply_of_readRequest_eq_error peer engine read).1
      rw [replied] at rejected
      cases rejected
      simp
  | ok request =>
      rw [reply_of_readRequest peer engine read] at replied
      cases prepared : (pipeline.prepare request peer engine).1 with
      | error payload =>
          rw [prepared] at replied
          cases replied
      | ok parts =>
          rw [prepared] at replied
          cases replied
          simp

/-- The answer to a request that the work has made something of. -/
theorem handle_of_prepare {response : Response} {left : Request} {before : Engine World}
    (parsed : Wire.readRequest raw pipeline.config.maxBody = .ok request)
    (prepared : pipeline.prepare request peer engine = (.ok (response, left), before)) :
    (pipeline.handle raw peer engine).1 =
      (pipeline.reworked response left before.clock before.world).1.map (withoutHeadBody left) := by
  have delivers := (pipeline.performs_deliverTo response left before).result
  unfold delivered at delivers
  rw [Action.fst_map] at delivers
  rw [handle_parsed parsed]
  unfold answer
  rw [prepared]
  exact delivers

theorem handle_of_prepare_eq_error {payload : Panic} {before : Engine World}
    (parsed : Wire.readRequest raw pipeline.config.maxBody = .ok request)
    (prepared : pipeline.prepare request peer engine = (.error payload, before)) :
    (pipeline.handle raw peer engine).1 = .error payload := by
  rw [handle_parsed parsed]
  unfold answer
  rw [prepared]
  rfl

/-- If there is a response, the work on the request has made something of it. -/
theorem exists_prepared {response : Response}
    (parsed : Wire.readRequest raw pipeline.config.maxBody = .ok request)
    (answered : (pipeline.handle raw peer engine).1 = .ok response) :
    ∃ built left before, pipeline.prepare request peer engine = (.ok (built, left), before) := by
  cases prepared : pipeline.prepare request peer engine with
  | mk parts before =>
      cases parts with
      | error payload => cases answered.symm.trans (handle_of_prepare_eq_error parsed prepared)
      | ok parts => exact ⟨parts.1, parts.2, before, rfl⟩

/-! ## What the work on a request makes of it -/

/-- What is made of a request is what is left of it, with the error written on it. -/
theorem exists_leaves_of_prepare {built : Response} {left : Request} {before : Engine World}
    (prepared : pipeline.prepare request peer engine = (.ok (built, left), before)) :
    ∃ error response, pipeline.Leaves (pipeline.opened request peer engine.clock) engine error
      response left ∧ built = written error response := by
  by_cases timely : pipeline.HasDeadline engine.clock
  · have performs := performs_prepare timely request peer
    cases works : pipeline.worked (pipeline.opened request peer engine.clock) engine with
    | mk action after =>
        rw [works, prepared] at performs
        obtain ⟨⟨error, response, kept⟩, later, came, wrote⟩ :=
          Action.exists_of_bind_ok performs.result.symm
        obtain ⟨_, _, same⟩ := Action.exists_of_map_ok wrote
        cases same
        exact ⟨error, response, leaves_of_worked works (congrArg Prod.fst came), rfl⟩
  · rw [prepare_of_not_hasDeadline timely] at prepared
    cases prepared

/-- The request that is left is the one that was read, up to its target, or the one that the chain
has left in time. -/
theorem left_of_prepare {response : Response} {left : Request} {before : Engine World}
    (prepared : pipeline.prepare request peer engine = (.ok (response, left), before)) :
    (∃ target, left = { pipeline.opened request peer engine.clock with target := target }) ∨
      ∃ endpoint routed outcome,
        pipeline.directed (pipeline.opened request peer engine.clock) = .ok (endpoint, routed) ∧
          (pipeline.chainRun (pipeline.opened request peer engine.clock) endpoint routed
            engine).1 = some (.ok outcome) ∧
          left = outcome.request := by
  obtain ⟨error, built, leaves, _⟩ := exists_leaves_of_prepare prepared
  have given : ∀ {endpoint : Option (Endpoint World)} {routed : Request},
      pipeline.directed (pipeline.opened request peer engine.clock) = .ok (endpoint, routed) →
        ∃ target, routed = { pipeline.opened request peer engine.clock with target := target } :=
    fun way => (retargeted_of_directed way).imp fun _ retargeted => retargeted.1
  cases leaves with
  | misdirected way _ => exact .inl (retargeted_of_misdirected way)
  | completed way came => exact .inr ⟨_, _, _, way, came, rfl⟩
  | failed way ran _ => exact .inr ⟨_, _, _, way, congrArg Prod.fst ran, rfl⟩
  | panicked way _ => exact .inl (given way)
  | late way _ _ => exact .inl (given way)

end

/-! ## Without panics -/

/-- The error that the work on a request comes to can be put into words. -/
def Wordable (pipeline : Pipeline World) (request : Request) (engine : Engine World) : Prop :=
  ∀ error response left, pipeline.Leaves request engine error response left →
    (reported error).Calm

/-- Without panics of the mapper and the responders there is an answer to every request that has a
deadline, and an error that can be put into words. -/
theorem Calm.handle {pipeline : Pipeline World} (calm : pipeline.Calm) {raw : Bytes}
    {request : Request} {peer : Option Network.SocketAddress} {engine : Engine World}
    (timely : pipeline.HasDeadline engine.clock)
    (wordable : pipeline.Wordable (pipeline.opened request peer engine.clock) engine)
    (parsed : Wire.readRequest raw pipeline.config.maxBody = .ok request) :
    ∃ response, (pipeline.handle raw peer engine).1 = .ok response := by
  obtain ⟨error, response, left, now, world, leaves, _, answered⟩ :=
    calm.answers timely parsed peer
  obtain ⟨_, later, reports⟩ := (wordable error response left leaves).exists_ok now world
  obtain ⟨responded, _, _, delivered⟩ := answered (congrArg Prod.fst reports)
  exact ⟨_, delivered⟩

end HttpService.Pipeline
