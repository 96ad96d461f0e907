import HttpService.Proofs.Wire.AnnouncedLength

/-!
Contract: whether the readers of a stream and of a request find the same end.

Owns:
- when a body is found incomplete, and when a request counts as complete;
- **the exact condition** under which a request that counts as complete is never found
  incomplete, with a head on either side of it.

Does not own: how often octets are read.
-/

namespace HttpService.Wire

open Headers (ofFields)

theorem short_of_incompleteBody {buffer available : Bytes} {maxBody expected received : Nat}
    {start : Method × Target} {headers : Headers}
    (first : readRequestLine (nextLine buffer).1 = .ok start)
    (read : readHeaders .empty (nextLine buffer).2 = .ok (headers, available))
    (incomplete : readRequest buffer maxBody = .error (.incompleteBody expected received)) :
    headers.contentLength ≤ maxBody ∧ available.length < headers.contentLength := by
  by_cases enough : 2 ≤ crlfCount buffer
  · rw [readRequest_of_le maxBody enough, first, read] at incomplete
    simp only [Except.bind, readBodied] at incomplete
    by_cases large : headers.contentLength > maxBody
    · rw [if_pos large] at incomplete
      cases incomplete
    · rw [if_neg large] at incomplete
      split at incomplete
      · cases incomplete
      · refine ⟨by omega, ?_⟩
        by_contra sufficient
        have present := (isOk_readBody buffer start.1 headers.contentLength available).mpr
          (Or.inr (Or.inr (Or.inr (by omega))))
        cases body : readBody buffer start.1 headers.contentLength available with
        | error error =>
            rw [body] at present
            cases present
        | ok octets =>
            rw [body] at incomplete
            cases incomplete
  · unfold readRequest at incomplete
    split at incomplete
    · cases incomplete
    · rw [if_pos (by omega)] at incomplete
      cases incomplete

theorem le_of_isComplete? {buffer : Bytes} {length maxBody : Nat}
    (ended : headEnd? buffer = some length) (complete : isComplete? buffer maxBody = some true) :
    maxBody < announcedLength (buffer.take length) ∨
      length + 4 + announcedLength (buffer.take length) ≤ buffer.length := by
  unfold isComplete? at complete
  simp only [ended] at complete
  by_cases large : maxBody < announcedLength (buffer.take length)
  · exact Or.inl large
  · rw [if_neg large] at complete
    obtain ⟨size, counted, enough⟩ := Option.map_eq_some_iff.mp complete
    unfold countable? at counted
    split at counted
    · cases counted
      exact Or.inr (of_decide_eq_true enough)
    · cases counted

/-- Whether the reader of a stream and the reader of a request agree on where the request
ends. -/
structure FramedAlike (buffer : Bytes) (length maxBody : Nat) (headers : Headers) : Prop where
  lengths : announcedLength (buffer.take length) = headers.contentLength
  complete : isComplete? buffer maxBody = some true → ∀ expected received,
    readRequest buffer maxBody ≠ .error (.incompleteBody expected received)

theorem Arrived.framedAlike {buffer available : Bytes} {length : Nat} {line : String}
    {lines : List String} {headers : Headers} {start : Method × Target} (maxBody : Nat)
    (arrived : Arrived buffer length line lines headers available)
    (ended : headEnd? buffer = some length)
    (first : readRequestLine (nextLine buffer).1 = .ok start)
    (read : readHeaders .empty (nextLine buffer).2 = .ok (headers, available))
    (lengths : announcedLength (buffer.take length) = headers.contentLength) :
    FramedAlike buffer length maxBody headers := by
  refine ⟨lengths, ?_⟩
  intro complete expected received incomplete
  have short := short_of_incompleteBody first read incomplete
  have enough := le_of_isComplete? ended complete
  have size := arrived.available
  rw [lengths] at enough
  omega

/-- **When both readers agree.** For every input whose head has arrived and is accepted, both
find the same end iff the first length that a line of the head announces, taken literally and
cut at every LF, is the first one that a line declares once it is stored. They do so for every
head whose lines are stored as they are. -/
theorem framedAlike_iff {buffer available : Bytes} {length : Nat} {start : Method × Target}
    {headers : Headers} (maxBody : Nat) (ended : headEnd? buffer = some length)
    (first : readRequestLine (nextLine buffer).1 = .ok start)
    (read : readHeaders .empty (nextLine buffer).2 = .ok (headers, available)) :
    (FramedAlike buffer length maxBody headers ↔
        spelledLength (headTexts (buffer.take length)) =
          storedLength (headTexts (buffer.take length))) ∧
      ((∀ line ∈ headTexts (buffer.take length), ∀ c ∈ line.toList, isFieldChar c = true) →
        FramedAlike buffer length maxBody headers) := by
  obtain ⟨line, lines, shape, arrived⟩ := exists_arrived ended first read
  have firstRead := first
  rw [shape] at firstRead
  have announced := arrived.announcedLength_eq
  have declared := arrived.contentLength_eq firstRead
  have agree : spelledLength (headTexts (buffer.take length)) =
      storedLength (headTexts (buffer.take length)) →
      FramedAlike buffer length maxBody headers := by
    intro same
    apply arrived.framedAlike maxBody ended first read
    rw [announced, declared, same]
  constructor
  · constructor
    · intro framed
      rw [← announced, ← declared]
      exact framed.lengths
    · exact agree
  · intro storable
    apply agree
    exact spelledLength_eq_storedLength storable

/-- A head on which both readers agree: the first length counts, in any casing. -/
def plainHead : Bytes :=
  Utf8.encode ("PUT /a HTTP/1.1\r\nContent-Type: text/plain\r\ncontent-LENGTH:\t5\r\n" ++
    "Content-Length: 7\r\n\r\nhe")

theorem framedAlike_plainHead :
    ∃ length start headers available, headEnd? plainHead = some length ∧
      readRequestLine (nextLine plainHead).1 = .ok start ∧
      readHeaders .empty (nextLine plainHead).2 = .ok (headers, available) ∧
      FramedAlike plainHead length 8192 headers := by
  have ended : headEnd? plainHead = some 79 := by decide +kernel
  have first : readRequestLine (nextLine plainHead).1 =
      .ok (.put, ⟨["a"], none, "/a", false, [], .empty⟩) := by decide +kernel
  have read : readHeaders .empty (nextLine plainHead).2 = .ok
      (ofFields [("Content-Type", "text/plain"), ("content-LENGTH", "5"),
        ("Content-Length", "7")], Utf8.encode "he") := by decide +kernel
  have lines : plainHead.take 79 = joined (Utf8.encode "PUT /a HTTP/1.1")
      (["Content-Type: text/plain", "content-LENGTH:\t5",
        "Content-Length: 7"].map Utf8.encode) := by
    decide +kernel
  have texts := headTexts_joined
    (unbroken_encode (by decide : '\r' ∉ "PUT /a HTTP/1.1".toList))
    (fun line member => unbroken_encode ((by decide :
      ∀ line ∈ ["Content-Type: text/plain", "content-LENGTH:\t5", "Content-Length: 7"],
        '\r' ∉ line.toList) line member))
  rw [← lines] at texts
  have storable : (headTexts (plainHead.take 79)).all (fun line => line.toList.all isFieldChar) =
      true := by
    rw [texts]
    decide +kernel
  have allStorable := fun line member =>
    List.all_eq_true.mp (List.all_eq_true.mp storable line member)
  exact ⟨_, _, _, _, ended, first, read, (framedAlike_iff 8192 ended first read).2 allStorable⟩

/-- The lines of a head in front of that of its length. -/
def brokenFront : List String :=
  ["POST / HTTP/1.1", "Host: x", "Content-Type: text/plain"]

/-- A head with a control character in the name of its length. -/
def brokenHead : Bytes :=
  Utf8.encode ("POST / HTTP/1.1\r\nHost: x\r\nContent-Type: text/plain\r\n" ++
    "Content\x01-Length: 5\r\n\r\n")

theorem headTexts_brokenHead :
    headTexts (brokenHead.take 70) = brokenFront ++ [splitName '\x01' 5] := by
  have lines : brokenHead.take 70 = joined (Utf8.encode "POST / HTTP/1.1")
      (["Host: x", "Content-Type: text/plain", splitName '\x01' 5].map Utf8.encode) := by
    decide +kernel
  rw [lines]
  exact headTexts_joined (unbroken_encode (by decide))
    (fun line member => unbroken_encode ((by decide :
      ∀ line ∈ ["Host: x", "Content-Type: text/plain", splitName '\x01' 5],
        '\r' ∉ line.toList) line member))

/-- The request counts as arrived before its body, and is then found incomplete. -/
theorem not_framedAlike_brokenHead :
    ∃ length start headers available, headEnd? brokenHead = some length ∧
      readRequestLine (nextLine brokenHead).1 = .ok start ∧
      readHeaders .empty (nextLine brokenHead).2 = .ok (headers, available) ∧
      announcedLength (brokenHead.take length) = 0 ∧ headers.contentLength = 5 ∧
      isComplete? brokenHead 8192 = some true ∧
      readRequest brokenHead 8192 = .error (.incompleteBody 5 0) := by
  have ended : headEnd? brokenHead = some 70 := by decide +kernel
  have first : readRequestLine (nextLine brokenHead).1 =
      .ok (.post, ⟨[], none, "/", false, [], .empty⟩) := by decide +kernel
  have read : readHeaders .empty (nextLine brokenHead).2 = .ok
      (ofFields [("Host", "x"), ("Content-Type", "text/plain"), ("Content-Length", "5")], []) := by
    decide +kernel
  obtain ⟨line, lines, shape, arrived⟩ := exists_arrived ended first read
  have firstRead := first
  rw [shape] at firstRead
  have announced := arrived.announcedLength_eq
  have declared := arrived.contentLength_eq firstRead
  have unspelled : ∀ line ∈ brokenFront, spelled? line = none := by decide +kernel
  have unstored : ∀ line ∈ brokenFront, stored? line = none := by decide +kernel
  obtain ⟨unannounced, hidden⟩ := hidden_length unspelled unstored
    (by decide : isFieldChar '\x01' = false) (by decide : 5 < sizeLimit)
  rw [headTexts_brokenHead, unannounced] at announced
  rw [headTexts_brokenHead, hidden] at declared
  refine ⟨_, _, _, _, ended, first, read, announced, declared, ?_, ?_⟩
  · decide +kernel
  · decide +kernel

end HttpService.Wire
