import HttpService.Proofs.Pipeline.Reading
import HttpService.Proofs.Pipeline.Reply
import HttpService.Proofs.Pipeline.Timeouts

/-!
Contract: what a connection that is served comes to.

Owns:
- what is received from the other end, and what is sent to it;
- **a connection gets at most one response**, whole or cut short, whatever its other end does;
- what has arrived is forgotten when reading times out;
- connections that end in a panic: a size cannot be counted, a deadline cannot be told, or an error
  cannot be put into words.

Does not own: the response.
-/

namespace HttpService

variable {World : Type}

/-- A stream that ends before anything has arrived. -/
def Silent (arrivals : List Arrival) : Prop :=
  ∀ arrival ∈ arrivals, ∃ span, arrival = .delay span

def Arrival.isChunk : Arrival → Bool
  | chunk _ => true
  | _ => false

/-- The same stream without what arrives. -/
def emptied (arrivals : List Arrival) : List Arrival :=
  arrivals.filter fun arrival => !arrival.isChunk

/-- What the other end makes of octets that are written to it, and when: what it takes, and why not
all of it. -/
def Sink.course (sink : Sink) (bytes : Bytes) : Option ((Bytes × Except TransferError Unit) × Nat) :=
  Pipeline.writeCourse sink.flushing bytes sink.uptakes

/-- Some wait of the other end is over at once. -/
def Sink.Instant (sink : Sink) : Prop :=
  .hinders (.delay 0) ∈ sink.uptakes ∨ .delay 0 ∈ sink.flushing

/-- A connection ends with a response being sent: with success if all of it is taken and passed on in
time, and with an error otherwise. -/
structure Sent (timeout : Nat) (sink : Sink) (response : Response) (closing : Closing) : Prop where
  part : closing.written <+: response.toBytes
  ended : closing.result = .ok (.ok ()) ∨ ∃ error, closing.result = .ok (.error (.transfer error))
  delivered : closing.result = .ok (.ok ()) → closing.written = response.toBytes ∧
    ∃ time ≤ timeout, sink.course response.toBytes = some ((response.toBytes, .ok ()), time)
  delivers : ∀ time, sink.course response.toBytes = some ((response.toBytes, .ok ()), time) →
    time < timeout ∨ time = timeout ∧ ¬ sink.Instant → closing.result = .ok (.ok ())

namespace Pipeline

/-- What arrivals come to by themselves, and when; none if they never come to anything. -/
def course (pipeline : Pipeline World) (arrivals : List Arrival) : Option (Receipt × Nat) :=
  if pipeline.limit < Wire.sizeLimit then
    arrivalCourse pipeline.limit pipeline.config.maxBody [] arrivals
  else some (.uncountable, 0)

/-- How a connection may end when something has been received. -/
inductive Closes (pipeline : Pipeline World) (sink : Sink) (peer : Option Network.SocketAddress)
    (before : Engine World) : Receipt → Closing → Prop where
  | silent {consumed : Nat} :
      Closes pipeline sink peer before (.request []) ⟨.ok (.ok ()), [], consumed⟩
  | failed {error : TransferError} {consumed : Nat} :
      Closes pipeline sink peer before (.failed error)
        ⟨.ok (.error (.transfer error)), [], consumed⟩
  | late {closing : Closing}
      (sent : Sent pipeline.config.writeTimeout sink (rejection (.ofStatus .requestTimeout)) closing) :
      Closes pipeline sink peer before .timedOut closing
  | answered {bytes : Bytes} {response : Response} {closing : Closing} (nonempty : bytes ≠ [])
      (handled : (pipeline.handle bytes peer before).1 = .ok response)
      (sent : Sent pipeline.config.writeTimeout sink response closing) :
      Closes pipeline sink peer before (.request bytes) closing
  /-- A size cannot be counted. -/
  | uncountable {consumed : Nat} :
      Closes pipeline sink peer before .uncountable ⟨.error sumTooLarge, [], consumed⟩
  /-- The deadline of the request cannot be told. -/
  | untimely {bytes : Bytes} {request : Request} {consumed : Nat} (nonempty : bytes ≠ [])
      (parsed : Wire.readRequest bytes pipeline.config.maxBody = .ok request)
      (untimely : ¬ pipeline.HasDeadline before.clock) :
      Closes pipeline sink peer before (.request bytes) ⟨.error deadlineTooFar, [], consumed⟩
  /-- The error of the request cannot be put into words. -/
  | unworded {bytes : Bytes} {request left : Request} {error : Option (HttpError World)}
      {response : Response} {now : Nat} {world : World} {payload : Panic} {consumed : Nat}
      (nonempty : bytes ≠ [])
      (parsed : Wire.readRequest bytes pipeline.config.maxBody = .ok request)
      (leaves : pipeline.Leaves (pipeline.opened request peer before.clock) before error response left)
      (unworded : (reported error now world).1 = .error payload) :
      Closes pipeline sink peer before (.request bytes) ⟨.error payload, [], consumed⟩

variable {pipeline : Pipeline World} {sink : Sink} {peer : Option Network.SocketAddress}
  {engine before : Engine World} {arrivals : List Arrival}

/-! ## Receiving -/

/-- What is received is what the arrivals come to, unless reading is timed out. -/
theorem within_receiveRequest (pipeline : Pipeline World) (arrivals : List Arrival)
    (engine : Engine World) :
    Within (.delay 0 ∈ arrivals) 0 pipeline.config.readTimeout (pipeline.course arrivals)
      (· = .timedOut) (pipeline.receiveRequest arrivals engine).1 := by
  have limit : Wire.readLimit? pipeline.config.maxBody =
      if pipeline.limit < Wire.sizeLimit then some pipeline.limit else none := rfl
  unfold receiveRequest course
  simp only
  rw [limit]
  split
  · exact (within_receive
      ⟨pipeline.limit, pipeline.config.maxBody, engine.clock + pipeline.config.readTimeout⟩ arrivals
      _ [] 0 (Nat.le_add_right _ _)).of_timeout
  · exact .at_once _ (Nat.zero_le _)

theorem ne_nil_of_enough {limit maxBody : Nat} {buffer chunk held : Bytes} (room : 0 < limit)
    (nonempty : buffer ++ chunk ≠ []) (step : Wire.absorb limit maxBody buffer chunk = .enough held) :
    held ≠ [] := by
  unfold Wire.absorb at step
  simp only at step
  split at step
  · cases step
    intro empty
    rcases List.take_eq_nil_iff.mp empty with none | none
    · omega
    · exact nonempty none
  · split at step
    · cases step
    · cases step
      exact nonempty
    · cases step

/-- What has arrived is not forgotten. -/
theorem arrivalCourse_ne_nil {limit maxBody time : Nat} (room : 0 < limit) {buffer : Bytes}
    (nonempty : buffer ≠ []) :
    arrivalCourse limit maxBody buffer arrivals ≠ some (.request [], time) := by
  intro comes
  refine arrivalCourse_induction (· ≠ []) (· ≠ .request []) ?_ ?_ ?_ ?_ ?_
    arrivals nonempty comes rfl
  · intro buffer holds same
    exact holds (Receipt.request.inj same)
  · intro buffer bytes after holds step
    rw [(Wire.absorb_more step).1]
    exact List.append_ne_nil_of_left_ne_nil holds bytes
  · intro buffer bytes after holds step same
    exact ne_nil_of_enough room (List.append_ne_nil_of_left_ne_nil holds bytes) step
      (Receipt.request.inj same)
  · exact fun _ _ _ _ => nofun
  · exact fun _ => nofun

theorem arrivalCourse_chunk (limit maxBody : Nat) (bytes : Bytes) (rest : List Arrival) :
    arrivalCourse limit maxBody [] (.chunk bytes :: rest) =
      arrivalCourse limit maxBody bytes (.chunk [] :: rest) := by
  have same : Wire.absorb limit maxBody [] bytes = Wire.absorb limit maxBody bytes [] := by
    simp [Wire.absorb]
  rw [arrivalCourse, arrivalCourse, same]

/-- Nothing has arrived exactly if the stream is silent. -/
theorem silent_iff {limit maxBody : Nat} (room : 0 < limit)
    (brings : ∀ bytes, .chunk bytes ∈ arrivals → bytes ≠ []) :
    Silent arrivals ↔ ∃ time, arrivalCourse limit maxBody [] arrivals = some (.request [], time) := by
  constructor
  · intro silent
    induction arrivals with
    | nil => exact ⟨0, rfl⟩
    | cons arrival rest inductionHypothesis =>
        obtain ⟨first, others⟩ := List.forall_mem_cons.mp silent
        obtain ⟨time, comes⟩ := inductionHypothesis
          (fun bytes member => brings bytes (List.mem_cons_of_mem _ member)) others
        obtain ⟨span, rfl⟩ := first
        exact ⟨restSpan span + time, by rw [arrivalCourse, comes]; rfl⟩
  · rintro ⟨time, comes⟩
    induction arrivals generalizing time with
    | nil => exact List.forall_mem_nil _
    | cons arrival rest inductionHypothesis =>
        cases arrival with
        | chunk bytes =>
            have held : bytes ≠ [] := brings bytes List.mem_cons_self
            rw [arrivalCourse_chunk] at comes
            exact absurd comes (arrivalCourse_ne_nil room held)
        | delay span =>
            obtain ⟨behind, comes, -⟩ := of_delayed comes
            refine List.forall_mem_cons.mpr ⟨⟨span, rfl⟩, inductionHypothesis ?_ behind comes⟩
            exact fun bytes member => brings bytes (List.mem_cons_of_mem _ member)
        | stall => cases comes
        | failure error => cases comes

theorem large_of_arrivalCourse {limit maxBody time : Nat} {buffer : Bytes}
    (comes : arrivalCourse limit maxBody buffer arrivals = some (.uncountable, time)) :
    Wire.sizeLimit ≤ limit + maxBody := by
  refine arrivalCourse_induction (fun _ => True)
    (fun receipt => receipt = .uncountable → Wire.sizeLimit ≤ limit + maxBody) ?_ ?_ ?_ ?_ ?_
    arrivals trivial comes rfl
  · exact fun _ _ => nofun
  · exact fun _ _ _ _ _ => trivial
  · exact fun _ _ _ _ _ => nofun
  · intro buffer bytes _ step _
    obtain ⟨short, unknown⟩ := Wire.absorb_uncountable step
    obtain ⟨index, uncountable⟩ := Wire.isComplete?_eq_none_iff.mp unknown
    exact uncountable.le_of_short short
  · exact fun _ => nofun

/-- Nothing is received exactly from a silent stream, if it ends in time and sizes can be counted. -/
theorem request_nil_iff {receipt : Receipt}
    (brings : ∀ bytes, .chunk bytes ∈ arrivals → bytes ≠ [])
    (within : Within (.delay 0 ∈ arrivals) 0 pipeline.config.readTimeout (pipeline.course arrivals)
      (· = .timedOut) receipt) :
    receipt = .request [] ↔ Silent arrivals ∧ receipt ≠ .timedOut ∧ receipt ≠ .uncountable := by
  cases within with
  | inTime time comes _ =>
      unfold course at comes
      split at comes
      · rw [silent_iff (limit_pos pipeline) brings]
        constructor
        · rintro rfl
          exact ⟨⟨time, comes⟩, nofun, nofun⟩
        · rintro ⟨⟨moment, silent⟩, -⟩
          cases comes.symm.trans silent
          rfl
      · cases comes
        exact ⟨nofun, fun counted => absurd rfl counted.2.2⟩
  | late missed _ =>
      rw [missed]
      exact ⟨nofun, fun inTime => absurd rfl inTime.2.1⟩

theorem large_of_uncountable {receipt : Receipt}
    (within : Within (.delay 0 ∈ arrivals) 0 pipeline.config.readTimeout (pipeline.course arrivals)
      (· = .timedOut) receipt) (uncountable : receipt = .uncountable) :
    Wire.sizeLimit ≤ pipeline.limit + pipeline.config.maxBody := by
  cases within with
  | inTime time comes _ =>
      rw [uncountable] at comes
      unfold course at comes
      split at comes
      · exact large_of_arrivalCourse comes
      · omega
  | late missed _ => cases missed.symm.trans uncountable

/-- A request has been received by the time that there is to read it. -/
theorem clock_receiveRequest {bytes : Bytes}
    (received : (pipeline.receiveRequest arrivals engine).1 = .request bytes) :
    (pipeline.receiveRequest arrivals engine).2.2.clock ≤
      engine.clock + pipeline.config.readTimeout := by
  unfold receiveRequest at received ⊢
  simp only at received ⊢
  generalize Wire.readLimit? pipeline.config.maxBody = limit at received ⊢
  cases limit with
  | none => cases received
  | some limit =>
      exact clock_receive ⟨limit, pipeline.config.maxBody, _⟩ arrivals _ _ _
        (Nat.le_add_right _ _) received

/-! ### What is forgotten -/

/-- Reading that is timed out leaves what it leaves if nothing arrives. -/
theorem receive_emptied (reading : Reading) (arrivals : List Arrival) :
    ∀ (usedUp : Bool) (buffer kept : Bytes) (consumed counted : Nat) (engine : Engine World),
      (receive reading usedUp buffer consumed arrivals engine).1 = .timedOut →
        (receive reading usedUp kept counted (emptied arrivals) engine).1 = .timedOut ∧
          (receive reading usedUp kept counted (emptied arrivals) engine).2.2 =
            (receive reading usedUp buffer consumed arrivals engine).2.2 := by
  induction arrivals with
  | nil => exact fun _ _ _ _ _ _ late => nomatch late
  | cons arrival rest inductionHypothesis =>
      intro usedUp buffer kept consumed counted engine late
      cases arrival with
      | chunk bytes =>
          have dropped : emptied (.chunk bytes :: rest) = emptied rest := rfl
          rw [receive] at late
          rw [dropped, receive]
          cases step : Wire.absorb reading.limit reading.maxBody buffer bytes with
          | more held =>
              rw [step] at late
              exact inductionHypothesis usedUp held kept _ counted engine late
          | enough held =>
              rw [step] at late
              cases late
          | uncountable =>
              rw [step] at late
              cases late
      | delay span =>
          have stays : emptied (.delay span :: rest) = .delay span :: emptied rest := rfl
          rw [receive] at late
          rw [stays, receive, receive]
          cases waited : engine.waitWithin (some (engine.clock + restSpan span)) reading.deadline
              usedUp with
          | mk reached after =>
              rw [waited] at late
              cases reached with
              | true => exact inductionHypothesis false buffer kept consumed counted after late
              | false => exact ⟨rfl, rfl⟩
      | stall => exact ⟨rfl, rfl⟩
      | failure error => cases late

theorem receiveRequest_emptied
    (late : (pipeline.receiveRequest arrivals engine).1 = .timedOut) :
    (pipeline.receiveRequest (emptied arrivals) engine).1 = .timedOut ∧
      (pipeline.receiveRequest (emptied arrivals) engine).2.2 =
        (pipeline.receiveRequest arrivals engine).2.2 := by
  unfold receiveRequest at late ⊢
  simp only at late ⊢
  generalize Wire.readLimit? pipeline.config.maxBody = limit at late ⊢
  cases limit with
  | none => cases late
  | some limit => exact receive_emptied _ arrivals _ _ _ _ _ _ late

/-! ## Sending -/

theorem toBytes_ne_nil (response : Response) : response.toBytes ≠ [] := by
  have blank : Utf8.encode "\r\n" ≠ [] := by decide
  unfold Response.toBytes
  simp [blank]

theorem sent_finish (pipeline : Pipeline World) (sink : Sink) (response : Response) (consumed : Nat)
    (engine : Engine World) :
    Sent pipeline.config.writeTimeout sink response
      (pipeline.finish sink response consumed engine).1 := by
  obtain ⟨part, whole⟩ := written_of_write (engine.clock + pipeline.config.writeTimeout)
    sink.flushing sink.uptakes (engine.allowance = 0) response.toBytes engine
  have within := (within_write (engine.clock + pipeline.config.writeTimeout) sink.flushing
    sink.uptakes (engine.allowance = 0) response.toBytes (Nat.le_add_right _ _)).of_timeout
  unfold finish transmit
  generalize write _ _ _ _ _ _ = sent at part whole within
  obtain ⟨written, result, after⟩ := sent
  refine ⟨part, ?_, ?_, ?_⟩
  · cases result with
    | ok _ => exact .inl rfl
    | error error => exact .inr ⟨error, rfl⟩
  · intro ended
    cases result with
    | ok _ =>
        have same : written = response.toBytes := whole rfl
        subst same
        cases within with
        | inTime time comes early => exact ⟨rfl, time, by omega, comes⟩
        | late missed long => cases missed
    | error error => cases ended
  · intro time comes early
    cases within with
    | inTime moment came inTime =>
        cases comes.symm.trans came
        rfl
    | late missed long =>
        rcases long _ time comes with beyond | ⟨same, instant⟩
        · omega
        · rcases early with before | ⟨_, never⟩
          · omega
          · exact absurd instant never

/-! ## The whole connection -/

/-- Why a request has come to a panic. -/
theorem Calm.closes_of_panic (calm : pipeline.Calm) {bytes : Bytes} {payload : Panic}
    (nonempty : bytes ≠ []) (handled : (pipeline.handle bytes peer before).1 = .error payload)
    (sink : Sink) (consumed : Nat) :
    pipeline.Closes sink peer before (.request bytes) ⟨.error payload, [], consumed⟩ := by
  cases read : Wire.readRequest bytes pipeline.config.maxBody with
  | error error =>
      rw [(reply_of_readRequest_eq_error peer before read).2] at handled
      cases handled
  | ok request =>
      rcases Decidable.em (pipeline.HasDeadline before.clock) with timely | untimely
      · obtain ⟨error, response, left, now, world, leaves, panics, answered⟩ :=
          calm.answers timely read peer
        cases reports : (reported error now world).1 with
        | error cause =>
            cases handled.symm.trans (panics cause reports)
            exact .unworded nonempty read leaves reports
        | ok _ =>
            obtain ⟨_, _, _, same⟩ := answered reports
            cases handled.symm.trans same
      · rw [handle_of_not_hasDeadline untimely read] at handled
        cases handled
        exact .untimely nonempty read untimely

theorem Calm.closes_serve (calm : pipeline.Calm) {receipt : Receipt} {consumed : Nat}
    (received : pipeline.receiveRequest arrivals engine = (receipt, consumed, before)) (sink : Sink)
    (peer : Option Network.SocketAddress) :
    pipeline.Closes sink peer before receipt (pipeline.serve arrivals sink peer engine).1 := by
  unfold serve
  rw [received]
  cases receipt with
  | request bytes =>
      simp only
      split
      · rename_i empty
        rw [empty]
        exact .silent
      · rename_i nonempty
        cases answer : pipeline.handle bytes peer before with
        | mk answered after =>
            have handled := congrArg Prod.fst answer
            cases answered with
            | ok response => exact .answered nonempty handled (sent_finish ..)
            | error payload => exact calm.closes_of_panic nonempty handled sink consumed
  | timedOut => exact .late (sent_finish ..)
  | failed error => exact .failed
  | uncountable => exact .uncountable

/-- A connection ends well with nothing written only if nothing has been received. -/
theorem Closes.silent_iff {receipt : Receipt} {closing : Closing}
    (closes : pipeline.Closes sink peer before receipt closing) :
    closing.result = .ok (.ok ()) ∧ closing.written = [] ↔ receipt = .request [] := by
  cases closes with
  | silent => exact ⟨fun _ => rfl, fun _ => ⟨rfl, rfl⟩⟩
  | failed => exact ⟨(fun ended => nomatch ended.1), nofun⟩
  | late sent =>
      refine ⟨fun ended => ?_, nofun⟩
      exact absurd ((sent.delivered ended.1).1.symm.trans ended.2) (toBytes_ne_nil _)
  | answered nonempty _ sent =>
      refine ⟨fun ended => ?_, fun same => absurd (Receipt.request.inj same) nonempty⟩
      exact absurd ((sent.delivered ended.1).1.symm.trans ended.2) (toBytes_ne_nil _)
  | uncountable => exact ⟨(fun ended => nomatch ended.1), nofun⟩
  | untimely nonempty =>
      exact ⟨(fun ended => nomatch ended.1), fun same => absurd (Receipt.request.inj same) nonempty⟩
  | unworded nonempty =>
      exact ⟨(fun ended => nomatch ended.1), fun same => absurd (Receipt.request.inj same) nonempty⟩

/-- A connection whose request is too late ends as if nothing had arrived. -/
theorem serve_emptied (late : (pipeline.receiveRequest arrivals engine).1 = .timedOut) (sink : Sink)
    (peer : Option Network.SocketAddress) :
    (pipeline.serve (emptied arrivals) sink peer engine).1.result =
        (pipeline.serve arrivals sink peer engine).1.result ∧
      (pipeline.serve (emptied arrivals) sink peer engine).1.written =
        (pipeline.serve arrivals sink peer engine).1.written ∧
      (pipeline.serve (emptied arrivals) sink peer engine).2 =
        (pipeline.serve arrivals sink peer engine).2 := by
  obtain ⟨lateToo, same⟩ := receiveRequest_emptied late
  unfold serve
  generalize pipeline.receiveRequest arrivals engine = received at late same
  generalize pipeline.receiveRequest (emptied arrivals) engine = receivedToo at lateToo same
  obtain ⟨receipt, consumed, before⟩ := received
  obtain ⟨receiptToo, consumedToo, beforeToo⟩ := receivedToo
  cases late
  cases lateToo
  cases same
  exact ⟨rfl, rfl, rfl⟩

/-- **A connection gets at most one response.** Whatever arrives, and however the other end takes
what is written, the connection ends in one of the ways in which it may end. It ends well with
nothing written exactly if the stream ends in time and nothing has arrived. A size cannot be counted
only if twice the largest body, with the head, is too large, and a deadline cannot be told only if
what is left to the clock is less than the two timeouts. If reading is timed out, what has arrived
makes no difference to what is sent. -/
theorem serve_answers_once (calm : pipeline.Calm)
    (brings : ∀ bytes, .chunk bytes ∈ arrivals → bytes ≠ []) (sink : Sink)
    (peer : Option Network.SocketAddress) (engine : Engine World) :
    ∃ receipt consumed before,
      pipeline.receiveRequest arrivals engine = (receipt, consumed, before) ∧
      Within (.delay 0 ∈ arrivals) 0 pipeline.config.readTimeout (pipeline.course arrivals)
        (· = .timedOut) receipt ∧
      pipeline.Closes sink peer before receipt (pipeline.serve arrivals sink peer engine).1 ∧
      ((pipeline.serve arrivals sink peer engine).1.result = .ok (.ok ()) ∧
          (pipeline.serve arrivals sink peer engine).1.written = [] ↔
        Silent arrivals ∧ receipt ≠ .timedOut ∧ receipt ≠ .uncountable) ∧
      (receipt = .uncountable → Wire.sizeLimit ≤ pipeline.limit + pipeline.config.maxBody) ∧
      (∀ bytes, receipt = .request bytes →
        engine.clock + pipeline.config.readTimeout + pipeline.config.writeTimeout ≤
          Deadline.lastMoment → pipeline.HasDeadline before.clock) ∧
      (receipt = .timedOut →
        (pipeline.serve (emptied arrivals) sink peer engine).1.result =
            (pipeline.serve arrivals sink peer engine).1.result ∧
          (pipeline.serve (emptied arrivals) sink peer engine).1.written =
            (pipeline.serve arrivals sink peer engine).1.written) := by
  have within := within_receiveRequest pipeline arrivals engine
  have forgotten := fun late : (pipeline.receiveRequest arrivals engine).1 = .timedOut =>
    serve_emptied late sink peer
  have clock := fun (bytes : Bytes)
      (read : (pipeline.receiveRequest arrivals engine).1 = .request bytes) =>
    clock_receiveRequest read
  cases received : pipeline.receiveRequest arrivals engine with
  | mk receipt rest =>
      obtain ⟨consumed, before⟩ := rest
      rw [received] at within forgotten clock
      have closes := calm.closes_serve received sink peer
      exact ⟨receipt, consumed, before, rfl, within, closes,
        closes.silent_iff.trans (request_nil_iff brings within), large_of_uncountable within,
        fun bytes read room => (Nat.add_le_add_right (clock bytes read) _).trans room,
        fun late => ⟨(forgotten late).1, (forgotten late).2.1⟩⟩

/-- A request line that comes in two reads. -/
def brief : List Arrival :=
  [.chunk (Utf8.encode "GET\r"), .chunk (Utf8.encode "\n\r\n")]

/-- An end that takes ten octets and then none. -/
def narrow : Sink := ⟨[.takes 10, .takes 0], []⟩

theorem serve_answers_once_cut_short :
    (bounded 8192).Calm ∧ (∀ bytes, .chunk bytes ∈ brief → bytes ≠ []) ∧
      ((bounded 8192).serve brief narrow none (.start ())).1.written = Utf8.encode "HTTP/1.1 4" ∧
      ∃ before response,
        ((bounded 8192).handle (Utf8.encode "GET\r\n\r\n") none before).1 = .ok response ∧
          Sent 10000 narrow response ((bounded 8192).serve brief narrow none (.start ())).1 := by
  have calm : (bounded 8192).Calm := ⟨nofun, nofun⟩
  have brings : ∀ bytes, .chunk bytes ∈ brief → bytes ≠ [] := by
    intro bytes member
    simp only [brief, List.mem_cons, Arrival.chunk.injEq, List.not_mem_nil, or_false] at member
    rcases member with rfl | rfl <;> decide
  have arrived : ((bounded 8192).receiveRequest brief (.start ())).1 =
      .request (Utf8.encode "GET\r\n\r\n") := by
    decide +kernel
  have malformed : ∀ request, Wire.readRequest (Utf8.encode "GET\r\n\r\n")
      (bounded 8192).config.maxBody ≠ .ok request := by
    have refused : (Wire.readRequest (Utf8.encode "GET\r\n\r\n")
        (bounded 8192).config.maxBody).isOk = false := by
      decide +kernel
    intro request parsed
    rw [parsed] at refused
    cases refused
  refine ⟨calm, brings, by decide +kernel, ?_⟩
  obtain ⟨receipt, consumed, before, received, -, closes, -⟩ :=
    serve_answers_once calm brings narrow none (.start ())
  rw [received] at arrived
  cases arrived
  generalize ((bounded 8192).serve brief narrow none (.start ())).1 = closing at closes
  cases closes with
  | answered _ handled sent => exact ⟨before, _, handled, sent⟩
  | untimely _ parsed _ => exact absurd parsed (malformed _)
  | unworded _ parsed _ _ => exact absurd parsed (malformed _)

/-- A service whose sizes cannot be counted panics before anything arrives. -/
theorem not_served_uncountable :
    (bounded (Wire.sizeLimit - Wire.maxHeadLength)).Calm ∧ Silent [] ∧
      ((bounded (Wire.sizeLimit - Wire.maxHeadLength)).serve [] .accepts none (.start ())).1 =
        ⟨.error sumTooLarge, [], 0⟩ :=
  ⟨⟨nofun, nofun⟩, nofun, rfl⟩

end Pipeline

end HttpService
