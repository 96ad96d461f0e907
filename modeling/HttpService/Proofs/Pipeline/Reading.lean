import HttpService.Pipeline.Connection
import HttpService.Proofs.Wire.Chunking

/-!
Contract: reading a request from a connection.

Owns:
- what a stream that arrives in chunks is received as;
- **when all ways to cut a stream into reads are received alike**, with a stream on which
  they are;
- streams that are not received at all, because the size of the request cannot be counted.

Does not own: reads that fail or take too long.
-/

namespace HttpService.Pipeline

open Text

variable {World : Type}

/-- What a sequence of reads is received as. -/
def receiptOf : Option Bytes → Receipt
  | some held => .request held
  | none => .uncountable

theorem receive_chunks (reading : Reading) (usedUp : Bool) (engine : Engine World)
    (chunks : List Bytes) : ∀ (buffer : Bytes) (consumed : Nat),
    (receive reading usedUp buffer consumed (chunks.map .chunk) engine).1 =
      receiptOf (Wire.collect reading.limit reading.maxBody buffer chunks) := by
  induction chunks with
  | nil =>
      intro buffer consumed
      rfl
  | cons chunk rest inductionHypothesis =>
      intro buffer consumed
      rw [List.map_cons, receive, Wire.collect]
      cases Wire.absorb reading.limit reading.maxBody buffer chunk with
      | more held => exact inductionHypothesis held _
      | enough held => rfl
      | uncountable => rfl

/-- The most octets that are kept of a request. -/
def limit (pipeline : Pipeline World) : Nat :=
  pipeline.config.maxBody + Wire.maxHeadLength

/-- What chunks are received as. -/
def received (pipeline : Pipeline World) (chunks : List Bytes) (engine : Engine World) : Receipt :=
  (pipeline.receiveRequest (chunks.map .chunk) engine).1

section

variable {pipeline : Pipeline World}

theorem limit_pos (pipeline : Pipeline World) : 0 < pipeline.limit :=
  Nat.add_pos_right _ (by decide)

theorem readLimit?_eq (representable : pipeline.limit < Wire.sizeLimit) :
    Wire.readLimit? pipeline.config.maxBody = some pipeline.limit := by
  unfold Wire.readLimit? Wire.countable?
  exact if_pos representable

theorem received_eq (representable : pipeline.limit < Wire.sizeLimit) (chunks : List Bytes)
    (engine : Engine World) :
    pipeline.received chunks engine =
      receiptOf (Wire.collect pipeline.limit pipeline.config.maxBody [] chunks) := by
  unfold received receiveRequest
  simp only [readLimit?_eq representable]
  exact receive_chunks _ _ engine chunks [] 0

theorem received_request_iff (representable : pipeline.limit < Wire.sizeLimit)
    {chunks : List Bytes} {engine : Engine World} {held : Bytes} :
    pipeline.received chunks engine = .request held ↔
      Wire.collect pipeline.limit pipeline.config.maxBody [] chunks = some held := by
  rw [received_eq representable]
  cases Wire.collect pipeline.limit pipeline.config.maxBody [] chunks with
  | none => simp [receiptOf]
  | some kept => simp [receiptOf]

theorem readRequest_of_received (representable : pipeline.limit < Wire.sizeLimit)
    {stream held : Bytes} {chunks : List Bytes} {engine : Engine World}
    (plain : Wire.PlainHead stream) (notTrace : ¬ Utf8.encode "TRACE " <+: stream)
    (cut : Wire.Cut stream chunks) (request : pipeline.received chunks engine = .request held) :
    Wire.readRequest held pipeline.config.maxBody =
      Wire.readRequest (stream.take pipeline.limit) pipeline.config.maxBody := by
  have collected := (received_request_iff representable).mp request
  have kept := Wire.kept_of_collect chunks pipeline.limit_pos collected
  rw [List.nil_append, cut.whole] at kept
  exact kept.readRequest_eq plain notTrace

/-- **Ways to cut a stream.** Whatever any two of them make of a stream with a plain head is
read alike. All of them make a request of it unless the head announces a body that is allowed
and whose end, counted from the start of the stream, is beyond the largest size. -/
theorem readRequest_alike_of_cuts (representable : pipeline.limit < Wire.sizeLimit)
    {stream : Bytes} (plain : Wire.PlainHead stream)
    (notTrace : ¬ Utf8.encode "TRACE " <+: stream) (engine other : Engine World) :
    (∀ first second, Wire.Cut stream first → Wire.Cut stream second → ∀ held kept,
        pipeline.received first engine = .request held →
        pipeline.received second other = .request kept →
          Wire.readRequest held pipeline.config.maxBody =
            Wire.readRequest kept pipeline.config.maxBody) ∧
      ((∀ chunks, Wire.Cut stream chunks →
          ∃ held, pipeline.received chunks engine = .request held) ↔
        ¬ Wire.Overflows stream pipeline.limit pipeline.config.maxBody) := by
  constructor
  · intro first second firstCut secondCut held kept firstRequest secondRequest
    rw [readRequest_of_received representable plain notTrace firstCut firstRequest,
      readRequest_of_received representable plain notTrace secondCut secondRequest]
  · rw [← Wire.collect_isSome_iff]
    simp only [received_request_iff representable]

end

/-! ## A short and a long request -/

/-- A service without routes that accepts bodies up to a length. -/
def bounded (maxBody : Nat) : Pipeline Unit :=
  ⟨{ Config.default with maxBody := maxBody }, .empty, .empty, [], .empty⟩

/-- The header lines of a request whose body has a length, the last of them padded. -/
def paddedLines (length : String) (padding : Nat) : List String :=
  ["Host: x", "Content-Type: text/plain", "Content-Length: " ++ length,
    "X: " ++ String.ofList (List.replicate padding 'a')]

theorem plainLines_padded {length : String}
    (storable : length.toList.all isFieldChar = true) (padding : Nat) :
    Wire.PlainLines "POST / HTTP/1.1" (paddedLines length padding) := by
  constructor
  · intro line member
    simp only [paddedLines, List.mem_cons, List.not_mem_nil, or_false] at member
    apply List.all_eq_true.mp
    rcases member with rfl | rfl | rfl | rfl | rfl
    · decide +kernel
    · decide +kernel
    · decide +kernel
    · have name : "Content-Length: ".toList.all isFieldChar = true := by decide +kernel
      rw [String.toList_append, List.all_append, name, storable]
      rfl
    · have name : "X: ".toList.all isFieldChar = true := by decide +kernel
      have filler : isFieldChar 'a' = true := by decide +kernel
      rw [String.toList_append, List.all_append, name, Bool.true_and, String.toList_ofList,
        List.all_replicate, filler]
      simp
  · simp [paddedLines]

theorem length_padded {length : String} (storable : length.toList.all isFieldChar = true)
    (padding : Nat) :
    (Wire.joined (Utf8.encode "POST / HTTP/1.1")
      ((paddedLines length padding).map Utf8.encode)).length =
        73 + length.toList.length + padding := by
  have front : "POST / HTTP/1.1".toList.length = 15 := by decide
  have host : "Host: x".toList.length = 7 := by decide
  have type : "Content-Type: text/plain".toList.length = 24 := by decide
  have lengthLine : ("Content-Length: " ++ length).toList.length = 16 + length.toList.length := by
    rw [String.toList_append, List.length_append]
    rfl
  have padded : ("X: " ++ String.ofList (List.replicate padding 'a')).toList.length =
      3 + padding := by
    rw [String.toList_append, List.length_append, String.toList_ofList (l := List.replicate _ _),
      List.length_replicate]
    rfl
  rw [(plainLines_padded storable padding).length_joined, paddedLines]
  simp only [List.foldr_cons, List.foldr_nil, front, host, type, lengthLine, padded]
  omega

/-- A request whose body is followed by more octets. -/
def shortStream : Bytes :=
  Wire.headed "POST / HTTP/1.1" (paddedLines "5" 3) (Utf8.encode "hello, world")

theorem readRequest_alike_of_cuts_shortStream :
    ∃ held kept, (bounded 8192).received [shortStream.take 40, shortStream.drop 40] (.start ()) =
        .request held ∧
      (bounded 8192).received [shortStream.take 90, shortStream.drop 90] (.start ()) =
        .request kept ∧
      held ≠ kept ∧ Wire.readRequest held 8192 = Wire.readRequest kept 8192 ∧
      ∀ chunks, Wire.Cut shortStream chunks →
        ∃ held, (bounded 8192).received chunks (.start ()) = .request held := by
  have representable : (bounded 8192).limit < Wire.sizeLimit := by decide
  have lines := plainLines_padded (by decide +kernel : "5".toList.all isFieldChar = true) 3
  have notTrace : ¬ Utf8.encode "TRACE " <+: shortStream := by decide +kernel
  have announced : Wire.spelledLength ("POST / HTTP/1.1" :: paddedLines "5" 3) = 5 := by
    decide +kernel
  have countable : ¬ Wire.Overflows shortStream (bounded 8192).limit 8192 := by
    rw [shortStream, lines.overflows_iff, announced, lines.length_joined]
    decide +kernel
  obtain ⟨alike, received⟩ := readRequest_alike_of_cuts representable
    (lines.plainHead (Utf8.encode "hello, world")) notTrace (.start ()) (.start ())
  have early : Wire.Cut shortStream [shortStream.take 40, shortStream.drop 40] :=
    ⟨by decide +kernel, by decide +kernel, by decide +kernel⟩
  have late : Wire.Cut shortStream [shortStream.take 90, shortStream.drop 90] :=
    ⟨by decide +kernel, by decide +kernel, by decide +kernel⟩
  have whole : (bounded 8192).received [shortStream.take 40, shortStream.drop 40] (.start ()) =
      .request shortStream := by
    decide +kernel
  have part : (bounded 8192).received [shortStream.take 90, shortStream.drop 90] (.start ()) =
      .request (shortStream.take 90) := by
    decide +kernel
  exact ⟨shortStream, shortStream.take 90, whole, part, by decide +kernel,
    alike _ _ early late _ _ whole part, received.mpr countable⟩

/-- The largest body for which the most octets that are kept can be counted. -/
def largestBody : Nat := Wire.sizeLimit - 1 - Wire.maxHeadLength

/-- A request with a long head and a body of the largest length, most of which is missing. -/
def longStream : Bytes :=
  Wire.headed "POST / HTTP/1.1" (paddedLines "18446744073709535231" 16384) (Utf8.encode "hello")

theorem storable_longLength : "18446744073709535231".toList.all isFieldChar = true := by
  decide +kernel

theorem length_head_longStream :
    (Wire.joined (Utf8.encode "POST / HTTP/1.1")
      ((paddedLines "18446744073709535231" 16384).map Utf8.encode)).length = 16477 := by
  have digits : "18446744073709535231".toList.length = 20 := by decide
  rw [length_padded storable_longLength, digits]

/-- The end of the body that is announced cannot be counted. -/
theorem overflows_longStream :
    Wire.Overflows longStream (bounded largestBody).limit (bounded largestBody).config.maxBody := by
  have announced : Wire.spelledLength
      ("POST / HTTP/1.1" :: paddedLines "18446744073709535231" 16384) = 18446744073709535231 := by
    have request : Wire.spelled? "POST / HTTP/1.1" = none := by decide +kernel
    have host : Wire.spelled? "Host: x" = none := by decide +kernel
    have type : Wire.spelled? "Content-Type: text/plain" = none := by decide +kernel
    have length : Wire.spelled? ("Content-Length: " ++ "18446744073709535231") =
        some 18446744073709535231 := by
      decide +kernel
    unfold Wire.spelledLength paddedLines
    simp only [List.findSome?_cons, request, host, type, length, Option.getD_some]
  rw [longStream, (plainLines_padded storable_longLength 16384).overflows_iff, announced,
    length_head_longStream]
  decide

/-- The stream is plain, and its length may be announced; still it is not received. -/
theorem not_received_longStream :
    (bounded largestBody).limit < Wire.sizeLimit ∧ Wire.PlainHead longStream ∧
      ¬ Utf8.encode "TRACE " <+: longStream ∧
      ∃ chunks, Wire.Cut longStream chunks ∧
        (bounded largestBody).received chunks (.start ()) = .uncountable := by
  have representable : (bounded largestBody).limit < Wire.sizeLimit := by decide
  have lines := plainLines_padded storable_longLength 16384
  have notTrace : ¬ Utf8.encode "TRACE " <+: longStream := by
    rintro ⟨rest, shape⟩
    have start : Utf8.encode "POST / HTTP/1.1" = 80 :: Utf8.encode "OST / HTTP/1.1" := by decide
    have trace : Utf8.encode "TRACE " = 84 :: Utf8.encode "RACE " := by decide
    rw [longStream, Wire.headed, Wire.joined, start, trace] at shape
    exact absurd (List.cons.inj shape).1 (by decide)
  obtain ⟨index, uncountable, early⟩ := overflows_longStream
  refine ⟨representable, lines.plainHead _, notTrace, _, Wire.cut_singly longStream, ?_⟩
  rw [received_eq representable,
    Wire.collect_singly_of_uncountable uncountable early longStream rfl (by simp)]
  rfl

end HttpService.Pipeline
