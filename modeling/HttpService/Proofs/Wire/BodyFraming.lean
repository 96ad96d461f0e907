import HttpService.Proofs.Headers.Stored
import HttpService.Proofs.Wire.HeadEnd
import HttpService.Proofs.Wire.Heads

/-!
Contract: which octets are the body of an accepted request.

Owns:
- what acceptance says about the declared length, the media type and the body;
- requests that are made of their parts, as every accepted request is;
- **the body of every accepted request**: the declared number of octets behind the first
  empty line, all of the input after TRACE, and nothing otherwise.

Does not own: what the declared length is when fields repeat or cannot be read.
-/

namespace HttpService

/-- A request of given parts, with nothing else filled in, whose header fields have been built. -/
def Request.Made (request : Request) : Prop :=
  ∃ method target headers body, request = .make method target headers body ∧ headers.Built

namespace Wire

open Headers (ofFields)

/-- The methods whose requests carry a body. -/
def carriers : List Method := [.post, .put, .delete, .patch]

theorem mem_carriers_iff (method : Method) : method ∈ carriers ↔ method.hasBody = true := by
  cases method <;> decide

/-- How the body of a request is related to the octets that it was read from. -/
structure FramedBody (input : Bytes) (maxBody : Nat) (request : Request) : Prop where
  /-- The declared length is allowed. -/
  allowed : request.headers.contentLength ≤ maxBody
  /-- A declared body stands behind the first empty line, and has a media type. -/
  carried : request.method ∈ carriers → request.headers.contentLength ≠ 0 →
    ∃ index, FirstBlank input index ∧
      request.headers.contentLength ≤ (input.drop (index + 4)).length ∧
      request.body = (input.drop (index + 4)).take request.headers.contentLength ∧
      request.mediaType.isSome = true
  /-- A TRACE request is its own body. -/
  traced : request.method = .trace → request.body = input
  /-- There is no other body. -/
  bodiless : request.method ≠ .trace →
    request.method ∉ carriers ∨ request.headers.contentLength = 0 → request.body = []

theorem body_of_readBodied {input available : Bytes} {maxBody : Nat} {method : Method}
    {target : Target} {headers : Headers} {request : Request}
    (bodied : readBodied input maxBody method target headers available = .ok request) :
    ∃ body, request = Request.make method target headers body ∧
      readBody input method headers.contentLength available = .ok body ∧
      BodyFits maxBody method headers available := by
  have fits : BodyFits maxBody method headers available := by
    rw [← isOk_readBodied input maxBody method target headers available, bodied]
    rfl
  have small : ¬ headers.contentLength > maxBody := Nat.not_lt.mpr fits.allowed
  unfold readBodied at bodied
  rw [if_neg small, if_neg fits.typed] at bodied
  cases read : readBody input method headers.contentLength available with
  | error error =>
      rw [read] at bodied
      cases bodied
  | ok body =>
      rw [read] at bodied
      cases bodied
      exact ⟨body, rfl, rfl, fits⟩

theorem made_of_readRequest {input : Bytes} {maxBody : Nat} {request : Request}
    (read : readRequest input maxBody = .ok request) : request.Made := by
  obtain ⟨method, target, headers, available, first, fields, bodied⟩ := parts_of_readRequest read
  obtain ⟨body, made, _⟩ := body_of_readBodied bodied
  obtain ⟨_, _, _, parted, _⟩ := exists_parted first fields
  obtain ⟨held, _, rfl⟩ := parted.fields
  exact ⟨method, target, ofFields held, body, made, Headers.built_ofFields held⟩

theorem readBody_of_declared {input available body : Bytes} {method : Method} {length : Nat}
    (carries : method.hasBody = true) (declared : length ≠ 0)
    (read : readBody input method length available = .ok body) :
    length ≤ available.length ∧ body = available.take length := by
  have notTrace : method ≠ .trace := by
    rintro rfl
    cases carries
  unfold readBody at read
  rw [if_neg notTrace, if_neg (by simp [carries, declared])] at read
  by_cases short : available.length < length
  · rw [if_pos short] at read
    cases read
  · rw [if_neg short] at read
    cases read
    exact ⟨by omega, rfl⟩

theorem exists_firstBlank {input available : Bytes} {start : Method × Target} {headers : Headers}
    (first : readRequestLine (nextLine input).1 = .ok start)
    (read : readHeaders .empty (nextLine input).2 = .ok (headers, available))
    (filled : available ≠ []) :
    ∃ index, FirstBlank input index ∧ input.drop (index + 4) = available := by
  obtain ⟨line, lines, behind, parted, ends⟩ := exists_parted first read
  rcases ends with rfl | ⟨_, empty⟩
  · obtain ⟨position, arrived⟩ := parted.arrived
    exact ⟨_, headEnd?_eq_some_iff.mp position, arrived.rest⟩
  · exact absurd empty filled

/-- **The body of an accepted request.** It is allowed; where the method carries a body and one
is declared, it is the declared number of octets behind the first empty line and has a media
type; after TRACE it is the whole input, and otherwise there is none. -/
theorem framedBody_of_readRequest {input : Bytes} {maxBody : Nat} {request : Request}
    (read : readRequest input maxBody = .ok request) : FramedBody input maxBody request := by
  obtain ⟨method, target, headers, available, first, fields, bodied⟩ := parts_of_readRequest read
  obtain ⟨body, rfl, cut, fits⟩ := body_of_readBodied bodied
  refine ⟨fits.allowed, ?_, ?_, ?_⟩
  · intro carrier declared
    have carries : method.hasBody = true := (mem_carriers_iff method).mp carrier
    have declared : headers.contentLength ≠ 0 := declared
    obtain ⟨enough, shape⟩ := readBody_of_declared carries declared cut
    -- The head could end at the end of the input only if no body were declared.
    have filled : available ≠ [] := by
      rintro rfl
      simp only [List.length_nil] at enough
      omega
    obtain ⟨index, blank, rest⟩ := exists_firstBlank first fields filled
    have typed : Request.declaredType method headers ≠ none :=
      fun untyped => fits.typed ⟨untyped, declared, carries⟩
    subst rest
    exact ⟨index, blank, enough, shape, Option.isSome_iff_ne_none.mpr typed⟩
  · intro trace
    have trace : method = .trace := trace
    unfold readBody at cut
    rw [if_pos trace] at cut
    cases cut
    rfl
  · intro notTrace nothing
    have notTrace : method ≠ .trace := notTrace
    have nothing : headers.contentLength = 0 ∨ method.hasBody = false := by
      rcases nothing with other | none
      · exact Or.inr (Bool.eq_false_iff.mpr fun carries => other ((mem_carriers_iff method).mpr carries))
      · exact Or.inl none
    unfold readBody at cut
    rw [if_neg notTrace, if_pos nothing] at cut
    cases cut
    rfl

/-- A request with stray line ends in its fields, a length that is declared twice, and empty
lines in its body and behind it. -/
def oddInput : Bytes :=
  Utf8.encode ("PUT /a HTTP/1.1\r\nX\rY: a\nb\r\nContent-Type: text/plain\r\n" ++
    "content-LENGTH:\t6\r\nContent-Length: x\r\n\r\n\nb\r\n\r\n\r\n\r\n")

theorem framedBody_oddInput :
    ∃ request, readRequest oddInput 6 = .ok request ∧
      request.body = Utf8.encode "\nb\r\n\r\n" ∧ FramedBody oddInput 6 request := by
  have read : readRequest oddInput 6 = .ok
      (Request.make .put ⟨["a"], none, "/a", false, [], .empty⟩
        (ofFields [("X\rY", "a\nb"), ("Content-Type", "text/plain"), ("content-LENGTH", "6"),
          ("Content-Length", "x")])
        (Utf8.encode "\nb\r\n\r\n")) := by
    decide +kernel
  exact ⟨_, read, rfl, framedBody_of_readRequest read⟩

end Wire

end HttpService
