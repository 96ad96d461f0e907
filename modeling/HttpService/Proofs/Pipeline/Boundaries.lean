import HttpService.Proofs.Pipeline.Reading

/-!
Contract: the reads at which a request is held complete, and the octets that are returned then.

Owns:
- octets behind which reading goes on, and the four ways in which it ends;
- what one read and a run of reads come to;
- **the buffer that is returned of a stream**: how much of it that is, how much is consumed, and that
  no request within the limits is cut short;
- the ways to read a stream of which no buffer is returned.

Does not own: how what is returned is read as a request, and reads that fail or take too long.
-/

namespace HttpService.Wire

/-! ## Requests that are complete -/

section

variable {maxBody index : Nat} {held stream : Bytes}

/-- The size that a complete request announces has arrived, unless its body is too large. -/
theorem FirstBlank.le_length_of_complete (part : held <+: stream) (blank : FirstBlank stream index)
    (complete : isComplete? held maxBody = some true)
    (allowed : announcedLength (stream.take index) ≤ maxBody) :
    index + 4 + announcedLength (stream.take index) ≤ held.length := by
  obtain ⟨early, ended⟩ := exists_firstBlank_of_complete complete
  obtain ⟨found, same⟩ := ended.of_part part
  cases found.unique blank
  rw [same] at allowed ⊢
  exact (le_of_isComplete? (headEnd?_eq_some_iff.mpr ended) complete).resolve_left (by omega)

/-- A request that is complete can be counted, and more octets do not change that. -/
theorem not_uncountable_of_complete (part : held <+: stream)
    (complete : isComplete? held maxBody = some true) : ¬ Uncountable stream maxBody index := by
  intro uncountable
  have arrived := uncountable.blank.le_length_of_complete part complete uncountable.allowed
  obtain ⟨early, ended⟩ := exists_firstBlank_of_complete complete
  obtain ⟨found, same⟩ := ended.of_part part
  cases found.unique uncountable.blank
  have unknown : isComplete? held maxBody = none :=
    isComplete?_eq_none_iff.mpr
      ⟨_, ended, same ▸ uncountable.allowed, same ▸ uncountable.large⟩
  rw [unknown] at complete
  cases complete

end

/-! ## One read -/

/-- Octets behind which reading goes on. -/
structure Waiting (limit maxBody : Nat) (held : Bytes) : Prop where
  short : held.length < limit
  incomplete : isComplete? held maxBody = some false

/-- How reading ends behind some octets, and what is returned of them then; none if their size cannot
be counted. -/
inductive Halt (limit maxBody : Nat) (last : Prop) (held : Bytes) : Option Bytes → Prop where
  | full (reached : limit ≤ held.length) : Halt limit maxBody last held (some (held.take limit))
  | complete (short : held.length < limit) (arrived : isComplete? held maxBody = some true) :
      Halt limit maxBody last held (some held)
  | ended (waiting : Waiting limit maxBody held) (exhausted : last) :
      Halt limit maxBody last held (some held)
  | uncountable (short : held.length < limit) (unknown : isComplete? held maxBody = none) :
      Halt limit maxBody last held none

/-- Behind a read, reading goes on or ends. -/
theorem absorb_cases (limit maxBody : Nat) (last : Prop) (buffer chunk : Bytes) :
    absorb limit maxBody buffer chunk = .more (buffer ++ chunk) ∧
        Waiting limit maxBody (buffer ++ chunk) ∨
      (∃ held, absorb limit maxBody buffer chunk = .enough held ∧
        Halt limit maxBody last (buffer ++ chunk) (some held)) ∨
      absorb limit maxBody buffer chunk = .uncountable ∧
        Halt limit maxBody last (buffer ++ chunk) none := by
  unfold absorb
  by_cases full : limit ≤ (buffer ++ chunk).length
  · exact .inr (.inl ⟨_, if_pos full, .full full⟩)
  · simp only [if_neg full]
    have short := Nat.lt_of_not_le full
    cases arrived : isComplete? (buffer ++ chunk) maxBody with
    | none => exact .inr (.inr ⟨rfl, .uncountable short arrived⟩)
    | some complete =>
        cases complete with
        | true => exact .inr (.inl ⟨_, rfl, .complete short arrived⟩)
        | false => exact .inl ⟨rfl, short, arrived⟩

end HttpService.Wire

namespace HttpService.Pipeline

open Wire

variable {World : Type}

/-! ## A run of reads -/

/-- Some reads of a stream: reading goes on behind all but the last of them, and ends behind the
last. -/
structure Run (limit maxBody : Nat) (buffer : Bytes) (chunks reads : List Bytes)
    (returned : Option Bytes) : Prop where
  part : reads <+: chunks
  earlier : ∀ front, front <+: reads → front ≠ reads → Waiting limit maxBody (buffer ++ front.flatten)
  halt : Halt limit maxBody (reads = chunks) (buffer ++ reads.flatten) returned

/-- A read behind which reading goes on comes in front of the others. -/
theorem Run.cons {limit maxBody : Nat} {buffer chunk : Bytes} {chunks reads : List Bytes}
    {returned : Option Bytes} (waiting : Waiting limit maxBody buffer)
    (run : Run limit maxBody (buffer ++ chunk) chunks reads returned) :
    Run limit maxBody buffer (chunk :: chunks) (chunk :: reads) returned := by
  refine ⟨List.cons_prefix_cons.mpr ⟨rfl, run.part⟩, ?_, ?_⟩
  · intro front part fewer
    cases front with
    | nil => simpa using waiting
    | cons first front =>
        obtain ⟨rfl, behind⟩ := List.cons_prefix_cons.mp part
        have further := run.earlier front behind fun same => fewer (congrArg _ same)
        rwa [List.append_assoc] at further
  · have halt := run.halt
    rw [List.append_assoc] at halt
    simpa using halt

/-- **A run of reads goes on until one of the endings.** -/
theorem exists_run (reading : Reading) (usedUp : Bool) (engine : Engine World) (chunks : List Bytes)
    (buffer : Bytes) (consumed : Nat) (waiting : Waiting reading.limit reading.maxBody buffer) :
    ∃ reads returned, Run reading.limit reading.maxBody buffer chunks reads returned ∧
      receive reading usedUp buffer consumed (chunks.map .chunk) engine =
        (receiptOf returned, consumed + reads.flatten.length, engine) := by
  -- On the reads that are left; that reading goes on behind the buffer is what each of them keeps.
  induction chunks generalizing buffer consumed with
  | nil =>
      refine ⟨[], some buffer, ⟨List.prefix_refl [], ?_, ?_⟩, rfl⟩
      · exact fun front part fewer => absurd (List.prefix_nil.mp part) fewer
      · exact (List.append_nil buffer).symm ▸ .ended waiting rfl
  | cons chunk rest inductionHypothesis =>
      rw [List.map_cons, receive]
      have single {returned : Option Bytes}
          (halt : Halt reading.limit reading.maxBody ([chunk] = chunk :: rest) (buffer ++ chunk)
            returned) :
          Run reading.limit reading.maxBody buffer (chunk :: rest) [chunk] returned := by
        refine ⟨⟨rest, rfl⟩, ?_, by simpa using halt⟩
        intro front part fewer
        cases front with
        | nil => simpa using waiting
        | cons first front =>
            obtain ⟨rfl, behind⟩ := List.cons_prefix_cons.mp part
            rw [List.prefix_nil.mp behind] at fewer
            exact absurd rfl fewer
      rcases absorb_cases reading.limit reading.maxBody ([chunk] = chunk :: rest) buffer chunk with
        ⟨step, further⟩ | ⟨held, step, halt⟩ | ⟨step, halt⟩
      · obtain ⟨reads, returned, run, received⟩ :=
          inductionHypothesis (buffer ++ chunk) (consumed + chunk.length) further
        refine ⟨chunk :: reads, returned, run.cons waiting, ?_⟩
        simp only [step]
        rw [received, List.flatten_cons, List.length_append, Nat.add_assoc]
      · exact ⟨[chunk], some held, single halt, by simp [step, receiptOf]⟩
      · exact ⟨[chunk], none, single halt, by simp [step, receiptOf]⟩

/-! ## What is returned of a stream -/

/-- Reads at which the size of the request cannot be counted, in front of the limit. -/
def Overruns (limit maxBody : Nat) (chunks : List Bytes) : Prop :=
  ∃ reads, reads <+: chunks ∧ reads.flatten.length < limit ∧
    ∃ index, Uncountable reads.flatten maxBody index

/-- What is known of a buffer that is returned of a stream, and of the octets that are consumed. -/
structure Returned (limit maxBody : Nat) (stream : Bytes) (chunks : List Bytes) (held : Bytes)
    (consumed : Nat) : Prop where
  part : held <+: stream
  bounded : held.length ≤ limit
  counted : consumed < limit + maxChunk
  /-- A buffer below the limit is complete, or all of a stream that has ended. -/
  stopped : held.length < limit →
    isComplete? held maxBody = some true ∨ held = stream ∧ consumed = stream.length
  /-- No boundary of reads before the last one was that of a complete request. -/
  earlier : ∀ front, front <+: chunks → front.flatten.length < consumed →
    isComplete? front.flatten maxBody = some false
  /-- A request within the limits that arrives is not cut short. -/
  uncut : ∀ index, FirstBlank stream index → announcedLength (stream.take index) ≤ maxBody →
    index + 4 + announcedLength (stream.take index) ≤ limit →
    index + 4 + announcedLength (stream.take index) ≤ stream.length →
      stream.take (index + 4 + announcedLength (stream.take index)) <+: held

section

variable {limit maxBody : Nat} {stream held : Bytes} {chunks reads : List Bytes}

theorem waiting_nil (room : 0 < limit) : Waiting limit maxBody [] :=
  ⟨room, rfl⟩

/-- Fewer octets than are consumed are those of fewer reads. -/
theorem Run.waiting {returned : Option Bytes} (run : Run limit maxBody [] chunks reads returned)
    {front : List Bytes} (part : front <+: chunks)
    (fewer : front.flatten.length < reads.flatten.length) : Waiting limit maxBody front.flatten := by
  have before : front <+: reads := by
    rcases List.prefix_or_prefix_of_prefix part run.part with before | ⟨more, rfl⟩
    · exact before
    · rw [List.flatten_append, List.length_append] at fewer
      omega
  refine run.earlier front before ?_
  rintro rfl
  exact absurd fewer (Nat.lt_irrefl _)

/-- What a run consumes stays below the limit up to its last read. -/
theorem Run.consumed_lt {returned : Option Bytes} (run : Run limit maxBody [] chunks reads returned)
    (room : 0 < limit) (cut : Cut stream chunks) : reads.flatten.length < limit + maxChunk := by
  rcases List.eq_nil_or_concat' reads with rfl | ⟨front, last, rfl⟩
  · exact Nat.lt_of_lt_of_le room (Nat.le_add_right _ _)
  · have short := (run.earlier front (List.prefix_append _ _) (by simp)).short
    have bounded := cut.bounded last (run.part.subset (by simp))
    rw [List.nil_append] at short
    rw [List.flatten_append, List.length_append, List.flatten_singleton]
    omega

theorem Run.flatten_part {returned : Option Bytes} (run : Run limit maxBody [] chunks reads returned)
    (cut : Cut stream chunks) : reads.flatten <+: stream :=
  cut.whole ▸ run.part.flatten

/-- **A run that returns a buffer returns as much of the stream as is asked for.** -/
theorem Run.returned (run : Run limit maxBody [] chunks reads (some held)) (room : 0 < limit)
    (cut : Cut stream chunks) : Returned limit maxBody stream chunks held reads.flatten.length := by
  have halt := run.halt
  have behind := run.flatten_part cut
  have part : held <+: stream := by
    cases halt with
    | full => exact (List.take_prefix _ _).trans behind
    | complete => exact behind
    | ended => exact behind
  have whole : reads = chunks → reads.flatten = stream := fun last => last ▸ cut.whole
  refine
    { part := part
      bounded := ?_
      counted := run.consumed_lt room cut
      stopped := ?_
      earlier := fun front before fewer => (run.waiting before fewer).incomplete
      uncut := ?_ }
  · cases halt with
    | full => exact List.length_take_le _ _
    | complete short => exact short.le
    | ended waiting => exact waiting.short.le
  · intro short
    cases halt with
    | full reached =>
        rw [List.length_take, Nat.min_eq_left reached] at short
        exact absurd short (Nat.lt_irrefl _)
    | complete _ arrived => exact .inl arrived
    | ended _ last => exact .inr ⟨whole last, congrArg List.length (whole last)⟩
  · intro index blank allowed within arrives
    have size : index + 4 + announcedLength (stream.take index) ≤ held.length := by
      cases halt with
      | full reached => rwa [List.length_take, Nat.min_eq_left reached]
      | complete _ arrived => exact blank.le_length_of_complete behind arrived allowed
      | ended _ last => rwa [whole last]
    exact List.prefix_of_prefix_length_le (List.take_prefix _ _) part
      ((List.length_take_le _ _).trans size)

/-- A run that returns a buffer meets no boundary at which the size cannot be counted. -/
theorem Run.not_overruns (run : Run limit maxBody [] chunks reads (some held)) :
    ¬ Overruns limit maxBody chunks := by
  rintro ⟨others, part, short, index, uncountable⟩
  have unknown : isComplete? others.flatten maxBody = none :=
    isComplete?_eq_none_iff.mpr ⟨index, uncountable⟩
  by_cases fewer : others.flatten.length < reads.flatten.length
  · have waiting := (run.waiting part fewer).incomplete
    rw [unknown] at waiting
    cases waiting
  · -- The other boundary lies behind the run, which has ended for a reason that more octets keep.
    have before : reads.flatten <+: others.flatten :=
      List.prefix_of_prefix_length_le run.part.flatten part.flatten (Nat.le_of_not_lt fewer)
    have halt := run.halt
    rw [List.nil_append] at halt
    cases halt with
    | full reached => omega
    | complete _ arrived => exact not_uncountable_of_complete before arrived uncountable
    | ended waiting last =>
        have same : others.flatten = reads.flatten :=
          (last ▸ part.flatten).eq_of_length_le before.length_le
        rw [same, waiting.incomplete] at unknown
        cases unknown

/-- A run that returns no buffer ends at a boundary at which the size cannot be counted. -/
theorem Run.overruns (run : Run limit maxBody [] chunks reads none) :
    Overruns limit maxBody chunks := by
  have halt := run.halt
  cases halt with
  | uncountable short unknown => exact ⟨reads, run.part, short, isComplete?_eq_none_iff.mp unknown⟩

/-- Sizes can always be counted if the largest body fits twice below the largest size. -/
theorem not_overruns_of_small (small : limit + maxBody < sizeLimit) :
    ¬ Overruns limit maxBody chunks := by
  rintro ⟨reads, -, short, index, uncountable⟩
  exact absurd (uncountable.le_of_short short) (Nat.not_le_of_lt small)

end

section

variable {pipeline : Pipeline World} {chunks : List Bytes}

theorem exists_run_of_receiveRequest (representable : pipeline.limit < sizeLimit)
    (chunks : List Bytes) (engine : Engine World) :
    ∃ reads returned, Run pipeline.limit pipeline.config.maxBody [] chunks reads returned ∧
      pipeline.receiveRequest (chunks.map .chunk) engine =
        (receiptOf returned, reads.flatten.length, engine) := by
  unfold receiveRequest
  simp only [readLimit?_eq representable]
  obtain ⟨reads, returned, run, received⟩ :=
    exists_run ⟨pipeline.limit, pipeline.config.maxBody,
      engine.clock + pipeline.config.readTimeout⟩ (engine.allowance = 0) engine chunks [] 0
      (waiting_nil pipeline.limit_pos)
  exact ⟨reads, returned, run, by rw [received, Nat.zero_add]⟩

theorem receiveRequest_of_overruns (representable : pipeline.limit < sizeLimit)
    (overruns : Overruns pipeline.limit pipeline.config.maxBody chunks) (engine : Engine World) :
    (pipeline.receiveRequest (chunks.map .chunk) engine).1 = .uncountable := by
  obtain ⟨reads, returned, run, received⟩ :=
    exists_run_of_receiveRequest representable chunks engine
  cases returned with
  | none => rw [received, receiptOf]
  | some held => exact absurd overruns run.not_overruns

/-- **What is returned of a stream, however it is cut into reads.** Unless some boundary of reads in
front of the limit shows a head and an allowed length whose sum cannot be counted, a buffer is returned:
a piece of the stream from its start, not longer than the limit, for which less than the limit and one
read are consumed. Below the limit it is a complete request or all of the stream; no earlier boundary
was that of a complete request; and a request within the limits that arrives is in the buffer as a
whole. At such a boundary, reading ends with no buffer. -/
theorem receiveRequest_exactly (representable : pipeline.limit < sizeLimit) {stream : Bytes}
    (cut : Cut stream chunks) (engine : Engine World) :
    (¬ Overruns pipeline.limit pipeline.config.maxBody chunks → ∃ held consumed,
        pipeline.receiveRequest (chunks.map .chunk) engine = (.request held, consumed, engine) ∧
          Returned pipeline.limit pipeline.config.maxBody stream chunks held consumed) ∧
      (Overruns pipeline.limit pipeline.config.maxBody chunks →
        (pipeline.receiveRequest (chunks.map .chunk) engine).1 = .uncountable) := by
  refine ⟨fun countable => ?_, fun overruns =>
    receiveRequest_of_overruns representable overruns engine⟩
  obtain ⟨reads, returned, run, received⟩ :=
    exists_run_of_receiveRequest representable chunks engine
  cases returned with
  | none => exact absurd run.overruns countable
  | some held =>
      exact ⟨held, reads.flatten.length, received, run.returned pipeline.limit_pos cut⟩

/-- The short stream in two reads is returned with what follows its body. -/
theorem receiveRequest_exactly_shortStream :
    (bounded 8192).limit < sizeLimit ∧
      Cut shortStream [shortStream.take 40, shortStream.drop 40] ∧
      ∃ held consumed, (bounded 8192).receiveRequest
          ([shortStream.take 40, shortStream.drop 40].map .chunk) (.start ()) =
            (.request held, consumed, .start ()) ∧
        Returned (bounded 8192).limit 8192 shortStream
          [shortStream.take 40, shortStream.drop 40] held consumed := by
  have representable : (bounded 8192).limit < sizeLimit := by decide
  have cut : Cut shortStream [shortStream.take 40, shortStream.drop 40] :=
    ⟨by decide +kernel, by decide +kernel, by decide +kernel⟩
  exact ⟨representable, cut, (receiveRequest_exactly representable cut (.start ())).1
    (not_overruns_of_small (by decide))⟩

end

/-- The long stream is read to its end below the limit, and no buffer is returned of it, however it is
cut. -/
theorem receiveRequest_longStream :
    (bounded largestBody).limit < sizeLimit ∧ (∃ chunks, Cut longStream chunks) ∧
      ∀ chunks, Cut longStream chunks → ∀ held consumed engine,
        (bounded largestBody).receiveRequest (chunks.map .chunk) (.start ()) ≠
          (.request held, consumed, engine) := by
  have representable : (bounded largestBody).limit < sizeLimit := by decide
  refine ⟨representable, ⟨_, cut_singly longStream⟩, fun chunks cut held consumed engine same => ?_⟩
  obtain ⟨index, uncountable, -⟩ := overflows_longStream
  have short : longStream.length < (bounded largestBody).limit := by
    rw [longStream, headed, List.length_append, List.length_append, length_head_longStream]
    decide
  have overruns :
      Overruns (bounded largestBody).limit (bounded largestBody).config.maxBody chunks :=
    ⟨chunks, List.prefix_refl chunks, by rwa [cut.whole], index, by rwa [cut.whole]⟩
  have refused := receiveRequest_of_overruns representable overruns (.start ())
  rw [same] at refused
  cases refused

end HttpService.Pipeline
