import HttpService.Pipeline.Connection
import HttpService.Proofs.Pipeline.Answering

/-!
Contract: the identities of chains over the life of a service.

Owns: that the next identity is new after every answer, after every connection, and after any
sequence of connections.

Does not own: what is answered.
-/

namespace HttpService.Pipeline

variable {World : Type}

/-! ## Answers -/

section

variable {engine : Engine World}

theorem fresh_worked (pipeline : Pipeline World) (fresh : engine.Fresh) (request : Request) :
    (pipeline.worked request engine).2.Fresh := by
  cases way : pipeline.directed request with
  | error failure =>
      rw [worked_misdirected way]
      exact fresh
  | ok found =>
      rw [worked_directed way rfl]
      exact (fresh.reportAll _).attempt _ _

theorem fresh_handle (pipeline : Pipeline World) (fresh : engine.Fresh) (raw : Bytes)
    (peer : Option Network.SocketAddress) :
    (pipeline.handle raw peer engine).2.Fresh := by
  cases parsed : Wire.readRequest raw pipeline.config.maxBody with
  | error error =>
      unfold handle
      rw [parsed]
      exact fresh.report _ _
  | ok request =>
      by_cases timely : pipeline.HasDeadline engine.clock
      · rw [handle_parsed parsed]
        exact (performs_answer timely request peer).fresh (fresh_worked pipeline fresh _)
      · rw [handle_of_not_hasDeadline timely parsed]
        exact fresh

end

/-! ## Connections -/

theorem fresh_overcome (deadline : Nat) (usedUp : Bool) (hindrance : Hindrance)
    {engine : Engine World} (fresh : engine.Fresh) :
    (overcome deadline usedUp hindrance engine).2.Fresh := by
  cases hindrance with
  | delay span =>
      have waited := fresh.waitWithin (some (engine.clock + restSpan span)) deadline usedUp
      unfold overcome
      simp only
      split
      · rename_i result
        rw [result] at waited
        exact waited
      · rename_i result
        rw [result] at waited
        exact waited
  | stall => exact fresh.waitWithin none deadline usedUp
  | failure error => exact fresh

theorem fresh_flush (deadline : Nat) (flushing : List Hindrance) :
    ∀ (usedUp : Bool) {engine : Engine World}, engine.Fresh →
      (flush deadline usedUp flushing engine).2.Fresh := by
  induction flushing with
  | nil => exact fun _ _ fresh => fresh
  | cons hindrance rest inductionHypothesis =>
      intro usedUp engine fresh
      have overcame := fresh_overcome deadline usedUp hindrance fresh
      rw [flush]
      split
      · rename_i result
        rw [result] at overcame
        exact overcame
      · rename_i result
        rw [result] at overcame
        exact inductionHypothesis false overcame

theorem fresh_write (deadline : Nat) (flushing : List Hindrance) (uptakes : List Uptake) :
    ∀ (usedUp : Bool) (bytes : Bytes) {engine : Engine World}, engine.Fresh →
      (write deadline flushing usedUp bytes uptakes engine).2.2.Fresh := by
  induction uptakes with
  | nil =>
      intro usedUp bytes engine fresh
      unfold write
      split <;> exact fresh_flush deadline flushing usedUp fresh
  | cons uptake rest inductionHypothesis =>
      intro usedUp bytes engine fresh
      unfold write
      split
      · exact fresh_flush deadline flushing usedUp fresh
      · cases uptake with
        | takes most =>
            simp only
            split
            · exact fresh
            · exact inductionHypothesis usedUp _ fresh
        | hinders hindrance =>
            have overcame := fresh_overcome deadline usedUp hindrance fresh
            simp only
            split
            · rename_i result
              rw [result] at overcame
              exact overcame
            · rename_i result
              rw [result] at overcame
              exact inductionHypothesis false bytes overcame

theorem fresh_receive (reading : Reading) (arrivals : List Arrival) :
    ∀ (usedUp : Bool) (buffer : Bytes) (consumed : Nat) {engine : Engine World}, engine.Fresh →
      (receive reading usedUp buffer consumed arrivals engine).2.2.Fresh := by
  induction arrivals with
  | nil => exact fun _ _ _ _ fresh => fresh
  | cons arrival rest inductionHypothesis =>
      intro usedUp buffer consumed engine fresh
      cases arrival with
      | chunk bytes =>
          rw [receive]
          cases Wire.absorb reading.limit reading.maxBody buffer bytes with
          | more held => exact inductionHypothesis usedUp held _ fresh
          | enough held => exact fresh
          | uncountable => exact fresh
      | delay span =>
          have waited := fresh.waitWithin (some (engine.clock + restSpan span)) reading.deadline
            usedUp
          rw [receive]
          split
          · rename_i result
            rw [result] at waited
            exact inductionHypothesis false buffer consumed waited
          · rename_i result
            rw [result] at waited
            exact waited
      | stall => exact fresh.waitWithin none reading.deadline usedUp
      | failure error => exact fresh

section

variable {engine : Engine World}

theorem fresh_receiveRequest (pipeline : Pipeline World) (fresh : engine.Fresh)
    (arrivals : List Arrival) : (pipeline.receiveRequest arrivals engine).2.2.Fresh := by
  unfold receiveRequest
  simp only
  split
  · exact fresh
  · exact fresh_receive _ arrivals _ _ _ fresh

theorem fresh_transmit (fresh : engine.Fresh) (sink : Sink) (bytes : Bytes) (timeout : Nat) :
    (transmit sink bytes timeout engine).2.2.Fresh :=
  fresh_write _ _ sink.uptakes _ bytes fresh

theorem fresh_finish (pipeline : Pipeline World) (fresh : engine.Fresh) (sink : Sink)
    (response : Response) (consumed : Nat) :
    (pipeline.finish sink response consumed engine).2.Fresh := by
  unfold finish
  exact fresh_transmit fresh sink response.toBytes pipeline.config.writeTimeout

theorem fresh_serve (pipeline : Pipeline World) (fresh : engine.Fresh) (arrivals : List Arrival)
    (sink : Sink) (peer : Option Network.SocketAddress) :
    (pipeline.serve arrivals sink peer engine).2.Fresh := by
  have received := fresh_receiveRequest pipeline fresh arrivals
  unfold serve
  split
  · rename_i result
    rw [result] at received
    exact received
  · rename_i result
    rw [result] at received
    exact received
  · rename_i result
    rw [result] at received
    exact fresh_finish pipeline (received.report _ _) sink _ _
  · rename_i bytes consumed after result
    rw [result] at received
    have received : after.Fresh := received
    split
    · exact received
    · have handled := fresh_handle pipeline received bytes peer
      split
      · rename_i answered
        rw [answered] at handled
        exact handled
      · rename_i answered
        rw [answered] at handled
        exact fresh_finish pipeline handled sink _ _

/-- The engine of a service after some connections. -/
def serveAll (pipeline : Pipeline World)
    (connections : List (List Arrival × Sink × Option Network.SocketAddress))
    (engine : Engine World) : Engine World :=
  connections.foldl
    (fun engine (arrivals, sink, peer) => (pipeline.serve arrivals sink peer engine).2) engine

/-- Whatever connections a service has served, the next identity is new. -/
theorem fresh_serveAll (pipeline : Pipeline World)
    (connections : List (List Arrival × Sink × Option Network.SocketAddress)) :
    ∀ {engine : Engine World}, engine.Fresh → (pipeline.serveAll connections engine).Fresh := by
  induction connections with
  | nil => exact fun fresh => fresh
  | cons connection rest inductionHypothesis =>
      intro engine fresh
      obtain ⟨arrivals, sink, peer⟩ := connection
      have served := inductionHypothesis (fresh_serve pipeline fresh arrivals sink peer)
      unfold serveAll at served ⊢
      rw [List.foldl_cons]
      exact served

end

end HttpService.Pipeline
