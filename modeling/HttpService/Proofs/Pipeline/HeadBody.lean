import Mathlib.Tactic.Common
import HttpService.Proofs.Pipeline.Guarded
import HttpService.Proofs.Pipeline.Lateness
import HttpService.Proofs.Pipeline.Reply
import HttpService.Proofs.Pipeline.Upkeep
import HttpService.Proofs.Responses.Writing
import HttpService.Proofs.Wire.MethodToken

/-!
Contract: the body of an answer to HEAD.

Owns:
- the request that goes with a reply, and when it has the method of the request that was read;
- **which answers to HEAD have no body**: those to octets that are a request, as long as the work
  on it leaves it a HEAD request.

Does not own: the headers of an answer to HEAD.
-/

namespace HttpService.Pipeline

variable {World : Type}

/-! ## The request that is left -/

/-- If no middleware of the application changes the method of a request, the work on it leaves
the method that it had. -/
theorem method_of_prepare {pipeline : Pipeline World} {own : List (Middleware World)}
    (stack : pipeline.middleware = guards pipeline.config ++ own)
    (keeps : ∀ next ∈ own, Middleware.Keeps keepsMethod next) {request left : Request}
    {peer : Option Network.SocketAddress} {engine before : Engine World} (fresh : engine.Fresh)
    {response : Response}
    (prepared : pipeline.prepare request peer engine = (.ok (response, left), before)) :
    left.method = request.method := by
  rcases left_of_prepare prepared with ⟨target, rfl⟩ | ⟨endpoint, routed, outcome, way, came, rfl⟩
  · rfl
  · have comes := comes_chainRun fresh pipeline (pipeline.opened request peer engine.clock)
      endpoint routed
    rw [came] at comes
    have kept : outcome.request.method = routed.method :=
      (chainJob_keeps_method stack keeps endpoint routed).of_comes comes
    exact kept.trans (of_directed way).1

/-! ## Which answers have no body -/

theorem body_withoutHeadBody {left : Request} (isHead : left.method = .head)
    (response : Response) : (withoutHeadBody left response).body = [] := by
  unfold withoutHeadBody
  rw [if_pos isHead]
  rfl

/-- **Which answers to HEAD have no body.** Octets whose first line asks by HEAD, and which are no
request, are answered with a body. If they are one, it is a HEAD request, which is answered if neither
the mapper nor a responder panics, the request has a deadline and its error can be put into words. No
answer to it has a body as long as the work on the request leaves its method; what has become a request
of another method is answered with the body that the reply has after its responder. No middleware of
the application that keeps the method makes it one. -/
theorem head_answer_body {pipeline : Pipeline World} {raw : Bytes}
    (asked : Utf8.encode "HEAD " <+: (Wire.nextLine raw).1)
    (peer : Option Network.SocketAddress) (engine : Engine World) :
    (∀ error, Wire.readRequest raw pipeline.config.maxBody = .error error →
      ∃ response, (pipeline.handle raw peer engine).1 = .ok response ∧ response.body ≠ []) ∧
    ∀ request, Wire.readRequest raw pipeline.config.maxBody = .ok request →
      request.method = .head ∧
      (pipeline.Calm → pipeline.HasDeadline engine.clock →
        pipeline.Wordable (pipeline.opened request peer engine.clock) engine →
          ∃ response, (pipeline.handle raw peer engine).1 = .ok response) ∧
      ∀ response, (pipeline.handle raw peer engine).1 = .ok response →
        ∃ built left, (pipeline.reply raw peer engine).1 = .ok ⟨built, some left⟩ ∧
          (left.method = .head → response.body = []) ∧
          (left.method ≠ .head → ∃ now world,
            (pipeline.reworked built left now world).1 = .ok response) ∧
          (∀ own, pipeline.middleware = guards pipeline.config ++ own →
            (∀ next ∈ own, Middleware.Keeps keepsMethod next) → engine.Fresh →
              left.method = .head) := by
  constructor
  · intro error read
    obtain ⟨_, answered⟩ := reply_of_readRequest_eq_error peer engine read
    exact ⟨_, congrArg Prod.fst answered, Response.body_writeError_ne_nil _ _⟩
  · intro request read
    have isHead : request.method = .head := Wire.method_of_starts_request asked read
    refine ⟨isHead, fun calm timely wordable => calm.handle timely wordable read, ?_⟩
    intro response answered
    obtain ⟨built, left, before, prepared⟩ := exists_prepared read answered
    have replied : (pipeline.reply raw peer engine).1 = .ok ⟨built, some left⟩ := by
      rw [reply_of_readRequest peer engine read, prepared]
      rfl
    rw [handle_of_prepare read prepared] at answered
    obtain ⟨responded, reworked, same⟩ := exists_of_map_eq_ok answered
    subst same
    refine ⟨built, left, replied, fun leftHead => body_withoutHeadBody leftHead responded, ?_, ?_⟩
    · intro other
      refine ⟨before.clock, before.world, ?_⟩
      unfold withoutHeadBody
      rw [if_neg other]
      exact reworked
    · intro own stack keeps fresh
      exact (method_of_prepare stack keeps fresh prepared).trans isHead

/-! ## Services without routes -/

/-- A service without routes, with some middleware. -/
def unrouted (own : List (Middleware Unit)) : Pipeline Unit :=
  ⟨.default, .empty, .empty, guards .default ++ own, .empty⟩

/-- Such a service answers what its middleware makes of the request behind the guards. -/
theorem handle_unrouted (own : List (Middleware Unit)) {method : Method}
    (outcome : Except Panic (Outcome Unit))
    (parsed : Wire.readRequest (askBytes method) Wire.defaultMaxBody = .ok (askRequest method))
    (job : ((unrouted own).inner own none).proceed (.forMethod method)
      { (unrouted own).opened (askRequest method) none 0 with host := some "x" } =
        .ofOutcome outcome) :
    ∃ now world, ((unrouted own).handle (askBytes method) none (.start ())).1 =
      (((unrouted own).judged (.forMethod method)
        ((unrouted own).opened (askRequest method) none 0) (some outcome)).bind
          (unrouted own).concluded now world).1 := by
  have single : Guard.firstRepeatedHeader? (Guard.singletonsWith [])
      (Headers.empty.append "Host" "x") = none := by
    decide +kernel
  have passes : Passes (unrouted own).config
      ((unrouted own).opened (askRequest method) none 0).headers "x" := ⟨single, rfl⟩
  have stack : (unrouted own).middleware = guards (unrouted own).config ++ own := rfl
  have course := comes_chainRun (Machine.fresh_start ()) (unrouted own)
    ((unrouted own).opened (askRequest method) none 0) none
    ((unrouted own).opened (askRequest method) none 0)
  have begun : (unrouted own).chainJob none ((unrouted own).opened (askRequest method) none 0) =
      .ofOutcome outcome := (chainJob_passes stack rfl passes none).trans job
  rw [begun] at course
  have timely : (unrouted own).HasDeadline 0 := by
    show 0 + 10000 ≤ Deadline.lastMoment
    decide
  exact handle_of_came timely parsed rfl (course.of_outcome (show 0 < 0 + 10000 by decide))

theorem answered_unrouted {method : Method}
    (parsed : Wire.readRequest (askBytes method) Wire.defaultMaxBody = .ok (askRequest method)) :
    ∃ response, ((unrouted []).handle (askBytes method) none (.start ())).1 = .ok response := by
  obtain ⟨now, world, answered⟩ := handle_unrouted [] (.ok
    ⟨.error (.ofHttp (unroutedError Unit)), .forMethod method,
      { (unrouted []).opened (askRequest method) none 0 with host := some "x" }⟩) parsed rfl
  exact ⟨_, answered⟩

theorem asked_ask_head : Utf8.encode "HEAD " <+: (Wire.nextLine (askBytes .head)).1 := by
  decide +kernel

theorem head_answer_body_unrouted :
    Utf8.encode "HEAD " <+: (Wire.nextLine (askBytes .head)).1 ∧
      ∃ response, ((unrouted []).handle (askBytes .head) none (.start ())).1 = .ok response ∧
        response.body = [] := by
  obtain ⟨_, read⟩ := @head_answer_body _ (unrouted []) _ asked_ask_head none (.start ())
  obtain ⟨_, _, each⟩ := read (askRequest .head) parsed_ask_head
  obtain ⟨response, answered⟩ := answered_unrouted parsed_ask_head
  obtain ⟨_, left, _, stripped, _, kept⟩ := each response answered
  exact ⟨asked_ask_head, response, answered,
    stripped (kept [] rfl nofun (Machine.fresh_start ()))⟩

/-- A middleware that makes every request a GET request. -/
def asGet : Middleware Unit :=
  fun chain response request => chain.proceed response { request with method := .get }

/-- Behind such a middleware an answer has its body, whatever the method of the request. -/
theorem handle_asGet {method : Method}
    (parsed : Wire.readRequest (askBytes method) Wire.defaultMaxBody = .ok (askRequest method)) :
    ((unrouted [asGet]).handle (askBytes method) none (.start ())).1 =
      .ok ((Response.forMethod method).writeError (unroutedError Unit)) := by
  obtain ⟨now, world, answered⟩ := handle_unrouted [asGet] (.ok
    ⟨.error (.ofHttp (unroutedError Unit)), .forMethod method,
      { (unrouted [asGet]).opened (askRequest method) none 0 with
        method := .get
        host := some "x" }⟩) parsed rfl
  exact answered

/-- Octets that are no request, and a request that a middleware makes a GET request, are answered
with a body. -/
theorem head_body_left :
    (Utf8.encode "HEAD " <+:
        (Wire.nextLine (Utf8.encode "HEAD /a HTTP/1.0\r\nHost: x\r\n\r\n")).1 ∧
      ∃ response, ((unrouted []).handle (Utf8.encode "HEAD /a HTTP/1.0\r\nHost: x\r\n\r\n") none
        (.start ())).1 = .ok response ∧ response.body ≠ []) ∧
      Utf8.encode "HEAD " <+: (Wire.nextLine (askBytes .head)).1 ∧
        ∃ response, ((unrouted [asGet]).handle (askBytes .head) none (.start ())).1 =
          .ok response ∧ response.body ≠ [] := by
  constructor
  · have refused : Wire.readRequest (Utf8.encode "HEAD /a HTTP/1.0\r\nHost: x\r\n\r\n")
        (unrouted []).config.maxBody = .error (.unsupportedVersion "HTTP/1.0") := by
      show Wire.readRequest _ Wire.defaultMaxBody = _
      decide +kernel
    have answered := (reply_of_readRequest_eq_error none (.start ()) refused).2
    refine ⟨by decide +kernel, rejection (.ofRequestError (.unsupportedVersion "HTTP/1.0")), ?_, ?_⟩
    · rw [answered]
    · exact Response.body_writeError_ne_nil _ _
  · exact ⟨asked_ask_head, _, handle_asGet parsed_ask_head, Response.body_writeError_ne_nil _ _⟩

end HttpService.Pipeline
