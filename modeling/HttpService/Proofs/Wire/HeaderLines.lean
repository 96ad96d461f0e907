import HttpService.Proofs.Results
import HttpService.Proofs.Wire.LineCursor
import HttpService.Wire.RequestReader

/-!
Contract: reading a request line by line.

Owns:
- what header lines are read as at an empty line, at a filled line, and at the end of the
  input;
- that reading them from a place comes to the same as reading them from what is left there;
- acceptance of a request in terms of its first line and of what follows it.

Does not own: the fields themselves, and whether an input holds an empty line.
-/

namespace HttpService.Wire

/-! ## Header lines -/

/-- Reads header lines from what is left, up to the empty line; also returns what follows it. -/
def readHeaders (headers : Headers) (remaining : Remaining) :
    Except RequestError (Headers × Bytes) :=
  match remaining with
  | none => .error .unterminatedHeaders
  | some bytes =>
      if (nextLine bytes).1 = [] then .ok (headers, (nextLine bytes).2.getD [])
      else
        match readField (nextLine bytes).1 with
        | .error error => .error error
        | .ok (name, value) => readHeaders (headers.append name value) (nextLine bytes).2
termination_by Remaining.size remaining
decreasing_by exact nextLine_size bytes

theorem readHeaders_blank (headers : Headers) (rest : Bytes) :
    readHeaders headers (some (crlf ++ rest)) = .ok (headers, rest) := by
  have line : nextLine (crlf ++ rest) = ([], some rest) := nextLine_line rest unbroken_nil
  rw [readHeaders, line]
  rfl

/-- The end of the input counts as an empty line when no octet is left. -/
theorem readHeaders_nil (headers : Headers) : readHeaders headers (some []) = .ok (headers, []) := by
  rw [readHeaders]
  rfl

theorem readHeaders_line (headers : Headers) {line : Bytes} (rest : Bytes)
    (unbroken : Unbroken line) (filled : line ≠ []) :
    readHeaders headers (some (line ++ crlf ++ rest)) =
      (readField line).bind fun field =>
        readHeaders (headers.append field.1 field.2) (some rest) := by
  rw [readHeaders, nextLine_line rest unbroken, if_neg filled]
  cases readField line with
  | error error => rfl
  | ok field => rfl

/-- A last line without CR LF is no end of the headers. -/
theorem readHeaders_unended (headers : Headers) {bytes : Bytes} (unbroken : Unbroken bytes)
    (filled : bytes ≠ []) : ∃ error, readHeaders headers (some bytes) = .error error := by
  rw [readHeaders, nextLine_unbroken unbroken, if_neg filled]
  cases readField bytes with
  | error error => exact ⟨error, rfl⟩
  | ok field =>
      refine ⟨.unterminatedHeaders, ?_⟩
      show readHeaders _ none = _
      rw [readHeaders]

/-! ## Header lines from a place -/

section

variable {cursor behind : LineCursor}

theorem readHeaderLines_some (headers : Headers) {line : Bytes}
    (read : cursor.next = (some line, behind)) :
    readHeaderLines headers cursor =
      if line = [] then .ok (headers, behind)
      else
        (readField line).bind fun field =>
          readHeaderLines (headers.append field.1 field.2) behind := by
  rw [readHeaderLines]
  split
  · rename_i missing
    rw [read] at missing
    cases missing
  · rename_i found
    rw [read] at found
    cases found
    cases readField line with
    | error error => rfl
    | ok field => rfl

theorem readHeaderLines_none (headers : Headers) (read : cursor.next = (none, behind)) :
    readHeaderLines headers cursor = .error .unterminatedHeaders := by
  rw [readHeaderLines]
  split
  · rfl
  · rename_i found
    rw [read] at found
    cases found

end

/-- **Header lines from a place** are the header lines from what is left there, and the octets
behind them are those from the offset on. -/
theorem readHeaderLines_between (front rest : Bytes) (headers : Headers) :
    (readHeaderLines headers (.between front rest)).map
        (fun fields => (fields.1, (front ++ rest).drop fields.2.offset)) =
      readHeaders headers (some rest) := by
  induction rest using line_induction generalizing front headers with
  | last bytes unbroken =>
      have read := LineCursor.next_last front unbroken
      by_cases filled : bytes = []
      · subst filled
        rw [readHeaderLines_some headers read, if_pos rfl, readHeaders_nil]
        simp [Except.map, LineCursor.offset_past]
      · have ended := LineCursor.next_past (front ++ bytes)
        rw [readHeaderLines_some headers read, if_neg filled, readHeaders,
          nextLine_unbroken unbroken, if_neg filled]
        cases readField bytes with
        | error error => rfl
        | ok field =>
            simp only [Except.bind]
            rw [readHeaderLines_none _ ended, readHeaders]
            rfl
  | line line rest unbroken inductionHypothesis =>
      have read := LineCursor.next_line front rest unbroken
      by_cases filled : line = []
      · subst filled
        have whole : front ++ ([] ++ crlf ++ rest) = front ++ [] ++ crlf ++ rest := by
          simp only [List.append_assoc]
        rw [readHeaderLines_some headers read, if_pos rfl, whole, List.nil_append,
          readHeaders_blank]
        simp only [Except.map, LineCursor.offset_between, List.drop_left]
      · rw [readHeaderLines_some headers read, if_neg filled,
          readHeaders_line headers rest unbroken filled]
        cases readField line with
        | error error => rfl
        | ok field =>
            have whole : front ++ (line ++ crlf ++ rest) = front ++ line ++ crlf ++ rest := by
              simp only [List.append_assoc]
            rw [whole]
            exact inductionHypothesis (front ++ line ++ crlf) _

/-! ## Acceptance -/

/-- Whether a request is read at all. -/
def Accepted (input : Bytes) (maxBody : Nat) : Prop :=
  (readRequest input maxBody).isOk = true

/-- What reading comes to once the headers are read: the declared body, or why it is
refused. -/
def readBodied (input : Bytes) (maxBody : Nat) (method : Method) (target : Target)
    (headers : Headers) (available : Bytes) : Except RequestError Request :=
  if headers.contentLength > maxBody then
    .error (.bodyTooLarge headers.contentLength maxBody)
  else if Request.declaredType method headers = none ∧ headers.contentLength ≠ 0 ∧
      method.hasBody = true then .error .missingMediaType
  else
    (readBody input method headers.contentLength available).map
      (Request.make method target headers)

theorem le_crlfCount_of_readRequest {input : Bytes} {maxBody : Nat} {request : Request}
    (read : readRequest input maxBody = .ok request) : 2 ≤ crlfCount input := by
  unfold readRequest at read
  split_ifs at read
  omega

/-- With two CR LF pairs a request is read part by part: its first line, its headers, and the
declared body. -/
theorem readRequest_of_le {input : Bytes} (maxBody : Nat) (enough : 2 ≤ crlfCount input) :
    readRequest input maxBody =
      (readRequestLine (nextLine input).1).bind fun start =>
        (readHeaders .empty (nextLine input).2).bind fun fields =>
          readBodied input maxBody start.1 start.2 fields.1 fields.2 := by
  rcases unbroken_or_line input with unbroken | ⟨line, rest, rfl, unbroken⟩
  · rw [crlfCount_unbroken unbroken] at enough
    omega
  · have read : (LineCursor.start (line ++ crlf ++ rest)).next =
        (some line, .between (line ++ crlf) rest) := LineCursor.next_line [] rest unbroken
    have fields := readHeaderLines_between (line ++ crlf) rest .empty
    unfold readRequest
    rw [if_neg (by simp [crlf]), if_neg (by omega), nextLine_line rest unbroken, ← fields]
    simp only [read]
    cases readRequestLine line with
    | error error => rfl
    | ok start =>
        cases readHeaderLines .empty (.between (line ++ crlf) rest) with
        | error error => rfl
        | ok fields => rfl

theorem readRequest_behind_line {line rest : Bytes} (maxBody : Nat) (unbroken : Unbroken line)
    (enough : 1 ≤ crlfCount rest) :
    readRequest (line ++ crlf ++ rest) maxBody =
      (readRequestLine line).bind fun start =>
        (readHeaders .empty (some rest)).bind fun fields =>
          readBodied (line ++ crlf ++ rest) maxBody start.1 start.2 fields.1 fields.2 := by
  have counted : 2 ≤ crlfCount (line ++ crlf ++ rest) := by
    rw [crlfCount_line rest unbroken]
    omega
  rw [readRequest_of_le maxBody counted, nextLine_line rest unbroken]

theorem readRequest_line {line rest available : Bytes} {method : Method} {target : Target}
    {headers : Headers} (maxBody : Nat) (unbroken : Unbroken line)
    (enough : 1 ≤ crlfCount rest) (first : readRequestLine line = .ok (method, target))
    (fields : readHeaders .empty (some rest) = .ok (headers, available)) :
    readRequest (line ++ crlf ++ rest) maxBody =
      readBodied (line ++ crlf ++ rest) maxBody method target headers available := by
  rw [readRequest_behind_line maxBody unbroken enough, first]
  simp only [Except.bind, fields]

theorem parts_of_readRequest {input : Bytes} {maxBody : Nat} {request : Request}
    (read : readRequest input maxBody = .ok request) :
    ∃ method target headers available,
      readRequestLine (nextLine input).1 = .ok (method, target) ∧
        readHeaders .empty (nextLine input).2 = .ok (headers, available) ∧
        readBodied input maxBody method target headers available = .ok request := by
  rw [readRequest_of_le maxBody (le_crlfCount_of_readRequest read)] at read
  obtain ⟨⟨method, target⟩, first, further⟩ := exists_of_bind_eq_ok read
  obtain ⟨⟨headers, available⟩, fields, bodied⟩ := exists_of_bind_eq_ok further
  exact ⟨method, target, headers, available, first, fields, bodied⟩

theorem Accepted.le_crlfCount {input : Bytes} {maxBody : Nat} (accepted : Accepted input maxBody) :
    2 ≤ crlfCount input := by
  unfold Accepted at accepted
  cases read : readRequest input maxBody with
  | error error =>
      rw [read] at accepted
      cases accepted
  | ok request => exact le_crlfCount_of_readRequest read

/-- Whether the announced body is allowed, has a usable media type and is there. -/
structure BodyFits (maxBody : Nat) (method : Method) (headers : Headers)
    (available : Bytes) : Prop where
  allowed : headers.contentLength ≤ maxBody
  typed : ¬ (Request.declaredType method headers = none ∧ headers.contentLength ≠ 0 ∧
    method.hasBody = true)
  present : method = .trace ∨ headers.contentLength = 0 ∨ method.hasBody = false ∨
    headers.contentLength ≤ available.length

theorem isOk_readBody (input : Bytes) (method : Method) (length : Nat) (available : Bytes) :
    (readBody input method length available).isOk = true ↔
      method = .trace ∨ length = 0 ∨ method.hasBody = false ∨ length ≤ available.length := by
  unfold readBody
  by_cases trace : method = .trace
  · rw [if_pos trace]
    exact ⟨fun _ => Or.inl trace, fun _ => rfl⟩
  · rw [if_neg trace]
    by_cases bodiless : length = 0 ∨ method.hasBody = false
    · rw [if_pos bodiless]
      exact ⟨fun _ => Or.inr (bodiless.imp_right Or.inl), fun _ => rfl⟩
    · rw [if_neg bodiless]
      by_cases short : available.length < length
      · rw [if_pos short]
        constructor
        · intro accepted
          cases accepted
        · rintro (isTrace | none | noBody | enough)
          · exact absurd isTrace trace
          · exact absurd (Or.inl none) bodiless
          · exact absurd (Or.inr noBody) bodiless
          · omega
      · rw [if_neg short]
        exact ⟨fun _ => Or.inr (Or.inr (Or.inr (by omega))), fun _ => rfl⟩

theorem isOk_readBodied (input : Bytes) (maxBody : Nat) (method : Method) (target : Target)
    (headers : Headers) (available : Bytes) :
    (readBodied input maxBody method target headers available).isOk = true ↔
      BodyFits maxBody method headers available := by
  unfold readBodied
  by_cases large : headers.contentLength > maxBody
  · rw [if_pos large]
    constructor
    · intro accepted
      cases accepted
    · intro fits
      exact absurd fits.allowed (by omega)
  · rw [if_neg large]
    by_cases untyped : Request.declaredType method headers = none ∧
        headers.contentLength ≠ 0 ∧ method.hasBody = true
    · rw [if_pos untyped]
      constructor
      · intro accepted
        cases accepted
      · intro fits
        exact absurd untyped fits.typed
    · rw [if_neg untyped, isOk_map, isOk_readBody]
      exact ⟨fun present => ⟨by omega, untyped, present⟩, fun fits => fits.present⟩

/-- A request is accepted iff a second CR LF follows its first line, the line and the headers
are read, and the body fits. -/
theorem accepted_line_iff {line : Bytes} (rest : Bytes) (maxBody : Nat)
    (unbroken : Unbroken line) :
    Accepted (line ++ crlf ++ rest) maxBody ↔
      1 ≤ crlfCount rest ∧ ∃ method target headers available,
        readRequestLine line = .ok (method, target) ∧
          readHeaders .empty (some rest) = .ok (headers, available) ∧
          BodyFits maxBody method headers available := by
  constructor
  · intro accepted
    have enough : 1 ≤ crlfCount rest := by
      have counted := accepted.le_crlfCount
      rw [crlfCount_line rest unbroken] at counted
      omega
    unfold Accepted at accepted
    rw [readRequest_behind_line maxBody unbroken enough] at accepted
    cases first : readRequestLine line with
    | error error =>
        rw [first] at accepted
        cases accepted
    | ok start =>
        cases fields : readHeaders .empty (some rest) with
        | error error =>
            rw [first, fields] at accepted
            cases accepted
        | ok result =>
            simp only [first, fields, Except.bind, isOk_readBodied] at accepted
            exact ⟨enough, start.1, start.2, result.1, result.2, rfl, rfl, accepted⟩
  · rintro ⟨enough, method, target, headers, available, first, fields, fits⟩
    unfold Accepted
    rw [readRequest_line maxBody unbroken enough first fields]
    exact (isOk_readBodied _ _ _ _ _ _).mpr fits

theorem not_accepted_of_unbroken {input : Bytes} (maxBody : Nat) (unbroken : Unbroken input) :
    ¬ Accepted input maxBody := by
  intro accepted
  have counted := accepted.le_crlfCount
  rw [crlfCount_unbroken unbroken] at counted
  omega

end HttpService.Wire
