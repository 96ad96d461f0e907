import HttpService.Proofs.Wire.Complete

/-!
Contract: what is kept of a stream, however it is cut into reads.

Owns:
- the ways to cut a stream into reads;
- when a request counts as arrived, as not arrived, and as uncountable;
- reads stop at the limit, behind a complete request, or at the end of the stream;
- **whatever is kept is read like the stream up to the limit**;
- the streams on which some cut makes the size of the request uncountable.

Does not own: when reads happen.
-/

namespace HttpService.Wire

/-- The chunks that reads may bring of a stream. -/
structure Cut (stream : Bytes) (chunks : List Bytes) : Prop where
  whole : chunks.flatten = stream
  filled : ∀ chunk ∈ chunks, chunk ≠ []
  bounded : ∀ chunk ∈ chunks, chunk.length ≤ maxChunk

/-- Octets that arrive one by one. -/
def singly (stream : Bytes) : List Bytes :=
  stream.map fun byte => [byte]

theorem cut_singly (stream : Bytes) : Cut stream (singly stream) := by
  refine ⟨?_, ?_, ?_⟩
  · unfold singly
    induction stream with
    | nil => rfl
    | cons byte rest inductionHypothesis => simpa using inductionHypothesis
  · simp [singly]
  · simp [singly, maxChunk]

/-! ## First empty lines of a part of a stream -/

theorem FirstBlank.of_part {held stream : Bytes} {index : Nat} (part : held <+: stream)
    (blank : FirstBlank held index) :
    FirstBlank stream index ∧ stream.take index = held.take index := by
  obtain ⟨more, rfl⟩ := part
  have arrived := blank.here.length_le
  exact ⟨(firstBlank_append_iff arrived more).mpr blank, List.take_append_of_le_length (by omega)⟩

theorem PlainHead.of_part {held stream : Bytes} (plain : PlainHead stream)
    (part : held <+: stream) : PlainHead held := by
  intro index blank
  obtain ⟨further, same⟩ := blank.of_part part
  rw [← same]
  exact plain index further

/-! ## When a request has arrived -/

theorem isComplete?_of_not_blank {held : Bytes} (maxBody : Nat)
    (none : ∀ index, ¬ FirstBlank held index) : isComplete? held maxBody = some false := by
  unfold isComplete?
  split
  · rfl
  · rename_i index ended
    exact absurd (headEnd?_eq_some_iff.mp ended) (none index)

/-- A head that ends at an index announces a body that is allowed, and whose end cannot be
counted. -/
structure Uncountable (input : Bytes) (maxBody index : Nat) : Prop where
  blank : FirstBlank input index
  allowed : announcedLength (input.take index) ≤ maxBody
  large : sizeLimit ≤ index + 4 + announcedLength (input.take index)

theorem isComplete?_eq_none_iff {held : Bytes} {maxBody : Nat} :
    isComplete? held maxBody = none ↔ ∃ index, Uncountable held maxBody index := by
  constructor
  · intro unknown
    unfold isComplete? at unknown
    split at unknown
    · cases unknown
    · rename_i index ended
      simp only at unknown
      split at unknown
      · cases unknown
      · rename_i allowed
        rw [Option.map_eq_none_iff] at unknown
        unfold countable? at unknown
        split at unknown
        · cases unknown
        · exact ⟨index, headEnd?_eq_some_iff.mp ended, by omega, by omega⟩
  · rintro ⟨index, uncountable⟩
    have allowed := uncountable.allowed
    have large := uncountable.large
    unfold isComplete?
    rw [headEnd?_eq_some_iff.mpr uncountable.blank]
    simp only
    rw [if_neg (by omega), Option.map_eq_none_iff]
    unfold countable?
    rw [if_neg (by omega)]

theorem Uncountable.of_part {held stream : Bytes} {maxBody index : Nat} (part : held <+: stream)
    (uncountable : Uncountable held maxBody index) : Uncountable stream maxBody index := by
  obtain ⟨blank, same⟩ := uncountable.blank.of_part part
  refine ⟨blank, ?_, ?_⟩
  · rw [same]
    exact uncountable.allowed
  · rw [same]
    exact uncountable.large

/-- Below a limit, this takes a limit and a body that are too large together. -/
theorem Uncountable.le_of_short {held : Bytes} {limit maxBody index : Nat}
    (uncountable : Uncountable held maxBody index) (short : held.length < limit) :
    sizeLimit ≤ limit + maxBody := by
  have arrived := uncountable.blank.here.length_le
  have allowed := uncountable.allowed
  have large := uncountable.large
  omega

/-! ## One read -/

/-- Octets at which reads of a stream may stop. -/
structure Kept (limit maxBody : Nat) (stream held : Bytes) : Prop where
  part : held <+: stream.take limit
  stops : held = stream.take limit ∨ isComplete? held maxBody = some true

theorem absorb_more {limit maxBody : Nat} {buffer chunk held : Bytes}
    (step : absorb limit maxBody buffer chunk = .more held) :
    held = buffer ++ chunk ∧ held.length < limit := by
  unfold absorb at step
  simp only at step
  split at step
  · cases step
  · split at step
    · cases step
    · cases step
    · cases step
      exact ⟨rfl, by omega⟩

theorem absorb_enough {limit maxBody : Nat} {buffer chunk held : Bytes}
    (step : absorb limit maxBody buffer chunk = .enough held) (rest : Bytes) :
    Kept limit maxBody (buffer ++ chunk ++ rest) held := by
  unfold absorb at step
  simp only at step
  split at step
  · rename_i full
    cases step
    have same : (buffer ++ chunk).take limit = (buffer ++ chunk ++ rest).take limit :=
      (List.take_append_of_le_length full).symm
    exact ⟨same ▸ List.prefix_refl _, Or.inl same⟩
  · rename_i short
    split at step
    · cases step
    · rename_i complete
      cases step
      refine ⟨?_, Or.inr complete⟩
      rw [List.prefix_take_iff]
      exact ⟨List.prefix_append _ _, by omega⟩
    · cases step

theorem absorb_uncountable {limit maxBody : Nat} {buffer chunk : Bytes}
    (step : absorb limit maxBody buffer chunk = .uncountable) :
    (buffer ++ chunk).length < limit ∧ isComplete? (buffer ++ chunk) maxBody = none := by
  unfold absorb at step
  simp only at step
  split at step
  · cases step
  · rename_i short
    split at step
    · rename_i unknown
      exact ⟨by omega, unknown⟩
    · cases step
    · cases step

/-! ## A sequence of reads -/

theorem kept_of_collect {limit maxBody : Nat} {held : Bytes} (chunks : List Bytes) :
    ∀ {buffer : Bytes}, buffer.length < limit →
    collect limit maxBody buffer chunks = some held →
    Kept limit maxBody (buffer ++ chunks.flatten) held := by
  induction chunks with
  | nil =>
      intro buffer short collected
      cases collected
      -- The stream has ended below the limit.
      have same : (held ++ [].flatten).take limit = held := by
        rw [List.flatten_nil, List.append_nil, List.take_of_length_le (by omega)]
      exact ⟨by rw [same], Or.inl same.symm⟩
  | cons chunk rest inductionHypothesis =>
      intro buffer short collected
      rw [List.flatten_cons, ← List.append_assoc]
      unfold collect at collected
      split at collected
      · rename_i grown step
        obtain ⟨rfl, stillShort⟩ := absorb_more step
        exact inductionHypothesis stillShort collected
      · rename_i enough step
        cases collected
        exact absorb_enough step rest.flatten
      · cases collected

/-- Reads fail only behind a head that makes the size of the request uncountable. -/
theorem uncountable_of_collect {limit maxBody : Nat} (chunks : List Bytes) :
    ∀ {buffer : Bytes}, collect limit maxBody buffer chunks = none →
    ∃ index, Uncountable (buffer ++ chunks.flatten) maxBody index ∧ index + 4 < limit := by
  induction chunks with
  | nil =>
      intro buffer collected
      cases collected
  | cons chunk rest inductionHypothesis =>
      intro buffer collected
      rw [List.flatten_cons, ← List.append_assoc]
      unfold collect at collected
      split at collected
      · rename_i grown step
        obtain ⟨rfl, _⟩ := absorb_more step
        exact inductionHypothesis collected
      · cases collected
      · rename_i step
        obtain ⟨short, unknown⟩ := absorb_uncountable step
        obtain ⟨index, uncountable⟩ := isComplete?_eq_none_iff.mp unknown
        have arrived := uncountable.blank.here.length_le
        exact ⟨index, uncountable.of_part (List.prefix_append _ _), by omega⟩

/-- Whatever is kept of a stream is read like the stream up to the limit. -/
theorem Kept.readRequest_eq {limit maxBody : Nat} {stream held : Bytes} (plain : PlainHead stream)
    (notTrace : ¬ Utf8.encode "TRACE " <+: stream) (kept : Kept limit maxBody stream held) :
    readRequest held maxBody = readRequest (stream.take limit) maxBody := by
  rcases kept.stops with rfl | complete
  · rfl
  · have part : held <+: stream := kept.part.trans (List.take_prefix limit stream)
    have stillNotTrace : ¬ Utf8.encode "TRACE " <+: held := fun front => notTrace (front.trans part)
    obtain ⟨more, whole⟩ := kept.part
    rw [← whole]
    exact (readRequest_append_of_complete (plain.of_part part) stillNotTrace complete more).symm

/-! ## Streams whose requests are too large to be counted -/

/-- A head in front of the limit makes the size of the request uncountable. -/
def Overflows (stream : Bytes) (limit maxBody : Nat) : Prop :=
  ∃ index, Uncountable stream maxBody index ∧ index + 4 < limit

theorem PlainLines.overflows_iff {first : String} {more : List String}
    (lines : PlainLines first more) (rest : Bytes) (limit maxBody : Nat) :
    Overflows (headed first more rest) limit maxBody ↔
      spelledLength (first :: more) ≤ maxBody ∧
        sizeLimit ≤ (joined (Utf8.encode first) (more.map Utf8.encode)).length + 4 +
          spelledLength (first :: more) ∧
        (joined (Utf8.encode first) (more.map Utf8.encode)).length + 4 < limit := by
  have ended := lines.firstBlank rest
  have announced : announcedLength ((headed first more rest).take
      (joined (Utf8.encode first) (more.map Utf8.encode)).length) = spelledLength (first :: more) := by
    rw [take_headed, announcedLength_joined]
  constructor
  · rintro ⟨index, uncountable, early⟩
    have allowed := uncountable.allowed
    have large := uncountable.large
    rw [uncountable.blank.unique ended] at allowed large early
    rw [announced] at allowed large
    exact ⟨allowed, large, early⟩
  · rintro ⟨allowed, large, early⟩
    refine ⟨_, ⟨ended, ?_, ?_⟩, early⟩
    · rw [announced]
      exact allowed
    · rw [announced]
      exact large

/-- Octets that arrive one by one bring the end of such a head by itself. -/
theorem collect_singly_of_uncountable {stream : Bytes} {limit maxBody index : Nat}
    (uncountable : Uncountable stream maxBody index) (early : index + 4 < limit)
    (rest : Bytes) : ∀ {buffer : Bytes}, buffer ++ rest = stream → buffer.length < index + 4 →
    collect limit maxBody buffer (singly rest) = none := by
  induction rest with
  | nil =>
      intro buffer whole before
      have arrived := uncountable.blank.here.length_le
      rw [List.append_nil] at whole
      rw [whole] at before
      omega
  | cons byte rest inductionHypothesis =>
      intro buffer whole before
      have grown : buffer ++ [byte] ++ rest = stream := by
        rw [← whole, List.append_assoc, List.singleton_append]
      have part : buffer ++ [byte] <+: stream := ⟨rest, grown⟩
      have length : (buffer ++ [byte]).length = buffer.length + 1 := by simp
      have short : ¬ limit ≤ (buffer ++ [byte]).length := by omega
      show collect limit maxBody buffer ([byte] :: singly rest) = none
      by_cases last : buffer.length + 1 = index + 4
      · -- The head has arrived, and nothing behind it.
        have blank : FirstBlank (buffer ++ [byte]) index := by
          rw [← firstBlank_append_iff (by omega) rest, grown]
          exact uncountable.blank
        obtain ⟨_, same⟩ := blank.of_part part
        have unknown : isComplete? (buffer ++ [byte]) maxBody = none := by
          apply isComplete?_eq_none_iff.mpr
          exact ⟨index, blank, same ▸ uncountable.allowed, same ▸ uncountable.large⟩
        have step : absorb limit maxBody buffer [byte] = .uncountable := by
          unfold absorb
          simp only
          rw [if_neg short, unknown]
        unfold collect
        rw [step]
      · have noBlank : ∀ other, ¬ FirstBlank (buffer ++ [byte]) other := by
          intro other blank
          have arrived := blank.here.length_le
          have same := (blank.of_part part).1.unique uncountable.blank
          omega
        have step : absorb limit maxBody buffer [byte] = .more (buffer ++ [byte]) := by
          unfold absorb
          simp only
          rw [if_neg short, isComplete?_of_not_blank maxBody noBlank]
        unfold collect
        rw [step]
        exact inductionHypothesis grown (by omega)

/-- **Reads never fail iff the size can be counted.** -/
theorem collect_isSome_iff {stream : Bytes} {limit maxBody : Nat} :
    (∀ chunks, Cut stream chunks → ∃ held, collect limit maxBody [] chunks = some held) ↔
      ¬ Overflows stream limit maxBody := by
  constructor
  · rintro always ⟨index, uncountable, early⟩
    obtain ⟨held, collected⟩ := always (singly stream) (cut_singly stream)
    rw [collect_singly_of_uncountable uncountable early stream rfl (by simp)] at collected
    cases collected
  · intro countable chunks cut
    cases collected : collect limit maxBody [] chunks with
    | some held => exact ⟨held, rfl⟩
    | none =>
        obtain ⟨index, uncountable, early⟩ := uncountable_of_collect chunks collected
        rw [List.nil_append, cut.whole] at uncountable
        exact absurd ⟨index, uncountable, early⟩ countable

end HttpService.Wire
