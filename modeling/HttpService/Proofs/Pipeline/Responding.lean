import Mathlib.Tactic.Common
import HttpService.Proofs.Pipeline.Reply

/-!
Contract: when the responder for a status is applied.

Owns:
- the delivery of a reply whose status has a responder;
- **the responder is applied exactly once to replies to requests**, and never to replies to
  octets that are no request.

Does not own: what responders make of a reply.
-/

namespace HttpService.Pipeline

variable {World : Type}

theorem reworked_of_find? {pipeline : Pipeline World} {response : Response}
    {responder : Responder World} (isError : response.status.isError = true)
    (registered : pipeline.responders.find? response.status = some responder) (left : Request) :
    pipeline.reworked response left = responder response left := by
  unfold reworked Responders.respond
  rw [if_pos isError, registered]

theorem deliverTo_of_find? {pipeline : Pipeline World} {response : Response}
    {responder : Responder World} (isError : response.status.isError = true)
    (registered : pipeline.responders.find? response.status = some responder) (left : Request)
    (engine : Engine World) :
    (pipeline.deliverTo response left engine).1 =
        (responder response left engine.clock engine.world).1.map (withoutHeadBody left) ∧
      (pipeline.deliverTo response left engine).2.world =
        (responder response left engine.clock engine.world).2 := by
  have performs := pipeline.performs_deliverTo response left engine
  unfold delivered at performs
  rw [reworked_of_find? isError registered] at performs
  refine ⟨performs.result.trans ?_, performs.world.trans ?_⟩
  · exact Action.fst_map _ _ _ _
  · exact Action.snd_map _ _ _ _

/-- **When a responder is applied.** A reply to a request whose status has a responder becomes
the answer by one application of it: the answer, up to the body after HEAD, and the world that is
left are what the responder makes of the reply and of the world that it is built in. A reply to
octets that are no request is the answer as it stands. Counted in the world, the responder is
applied exactly once if and only if the octets are a request. -/
theorem responder_applied_once_iff {pipeline : Pipeline World} {status : Status}
    {responder : Responder World} (isError : status.isError = true)
    (registered : pipeline.responders.find? status = some responder) {raw : Bytes}
    {peer : Option Network.SocketAddress} {engine before : Engine World} {built : Reply}
    (replied : pipeline.reply raw peer engine = (.ok built, before))
    (hasStatus : built.response.status = status) :
    (∀ request, Wire.readRequest raw pipeline.config.maxBody = .ok request →
        ∃ left, built.request = some left ∧
          (pipeline.handle raw peer engine).1 =
            (responder built.response left before.clock before.world).1.map
              (withoutHeadBody left) ∧
          (pipeline.handle raw peer engine).2.world =
            (responder built.response left before.clock before.world).2) ∧
      (∀ error, Wire.readRequest raw pipeline.config.maxBody = .error error →
        pipeline.handle raw peer engine = (.ok built.response, before)) ∧
      ∀ count : World → Nat,
        (∀ response left now world,
          count (responder response left now world).2 = count world + 1) →
        (count (pipeline.handle raw peer engine).2.world = count before.world + 1 ↔
          ∃ request, Wire.readRequest raw pipeline.config.maxBody = .ok request) := by
  subst hasStatus
  have applied : ∀ request, Wire.readRequest raw pipeline.config.maxBody = .ok request →
      ∃ left, built.request = some left ∧
        (pipeline.handle raw peer engine).1 =
          (responder built.response left before.clock before.world).1.map (withoutHeadBody left) ∧
        (pipeline.handle raw peer engine).2.world =
          (responder built.response left before.clock before.world).2 := by
    intro request parsed
    obtain ⟨left, goesWith⟩ :=
      Option.isSome_iff_exists.mp ((request_of_reply replied).mpr ⟨request, parsed⟩)
    obtain ⟨response, _⟩ := built
    subst goesWith
    rw [handle_eq_deliver, replied]
    exact ⟨left, rfl, deliverTo_of_find? isError registered left before⟩
  have sent : ∀ error, Wire.readRequest raw pipeline.config.maxBody = .error error →
      pipeline.handle raw peer engine = (.ok built.response, before) := by
    intro error refused
    obtain ⟨rejected, answered⟩ :=
      reply_of_readRequest_eq_error peer engine refused
    rw [answered, replied]
    rw [replied] at rejected
    cases rejected
    rfl
  refine ⟨applied, sent, ?_⟩
  intro count counts
  constructor
  · intro once
    cases read : Wire.readRequest raw pipeline.config.maxBody with
    | ok request => exact ⟨request, rfl⟩
    | error error =>
        rw [sent error read] at once
        exact absurd once (Nat.succ_ne_self _).symm
  · rintro ⟨request, parsed⟩
    obtain ⟨left, _, _, world⟩ := applied request parsed
    rw [world, counts]

/-! ## Responders that count -/

/-- A responder that counts its applications. -/
def counting : Responder Nat :=
  fun response _ _ count => (.ok (response.setHeader "X-Page" "own"), count + 1)

/-- A service without routes that has such a responder for a status. -/
def countingAt (status : Status) : Pipeline Nat :=
  ⟨.default, .empty, .empty, [], .insert .empty status counting⟩

theorem responder_applied_once_unrouted :
    (countingAt .notFound).responders.find? .notFound = some counting ∧
      ∃ built before,
        (countingAt .notFound).reply (Utf8.encode "GET /a HTTP/1.1\r\nHost: x\r\n\r\n") none
          (.start 0) = (.ok built, before) ∧
        built.response.status = .notFound ∧
        ((countingAt .notFound).handle (Utf8.encode "GET /a HTTP/1.1\r\nHost: x\r\n\r\n") none
          (.start 0)).2.world = before.world + 1 := by
  have registered : (countingAt .notFound).responders.find? .notFound = some counting := rfl
  have parsed : Wire.readRequest (Utf8.encode "GET /a HTTP/1.1\r\nHost: x\r\n\r\n")
      (countingAt .notFound).config.maxBody = .ok lostRequest :=
    parsed_lost
  have way : (countingAt .notFound).directed
      ((countingAt .notFound).opened lostRequest none 0) =
        .ok (none, (countingAt .notFound).opened lostRequest none 0) := rfl
  have course : Job.Comes (.ofOutcome (.ok ⟨.error (.ofHttp (unroutedError Nat)), .forMethod .get,
      (countingAt .notFound).opened lostRequest none 0⟩)) 0 10000
      ((countingAt .notFound).chainRun ((countingAt .notFound).opened lostRequest none 0) none
        ((countingAt .notFound).opened lostRequest none 0) (.start 0)).1 :=
    comes_chainRun (Machine.fresh_start 0) (countingAt .notFound) _ none
      ((countingAt .notFound).opened lostRequest none 0)
  have came := course.of_outcome (by decide)
  obtain ⟨_, _, prepared⟩ := prepare_of_came (by decide) way came
  have replied := reply_of_readRequest none (.start 0) parsed
  rw [prepared] at replied
  refine ⟨registered, _, _, replied, rfl, ?_⟩
  have applied := responder_applied_once_iff (by decide) registered replied rfl
  exact (applied.2.2 id fun _ _ _ _ => rfl).mpr ⟨lostRequest, parsed⟩

/-- A responder for the status of octets that are no request is not applied to the reply. -/
theorem responder_not_applied_malformed :
    (countingAt .badRequest).responders.find? .badRequest = some counting ∧
      ∃ built before,
        (countingAt .badRequest).reply (Utf8.encode "GET /") none (.start 0) =
          (.ok built, before) ∧
        built.response.status = .badRequest ∧
        ((countingAt .badRequest).handle (Utf8.encode "GET /") none (.start 0)).2.world =
          before.world := by
  have refused : Wire.readRequest (Utf8.encode "GET /") (countingAt .badRequest).config.maxBody =
      .error (.malformedLine "GET /") := by
    decide +kernel
  obtain ⟨rejected, answered⟩ :=
    reply_of_readRequest_eq_error none (.start 0) refused
  cases replied : (countingAt .badRequest).reply (Utf8.encode "GET /") none (.start 0) with
  | mk built before =>
      rw [replied] at rejected answered
      refine ⟨rfl, _, before, Prod.ext rejected rfl, rfl, ?_⟩
      rw [answered]

end HttpService.Pipeline
