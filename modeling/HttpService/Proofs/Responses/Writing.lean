import HttpService.Fault
import HttpService.Proofs.Headers.Frame
import HttpService.Proofs.Wire.AnnouncedLength

/-!
Contract: what is written on a response, and what is sent of it.

Owns:
- the names under which the service itself writes, and what its writing leaves of other names;
- bodies of errors, which are not empty;
- **what is sent of a response without its body** is what is sent of it in front of the body.

Does not own: which responses are written on.
-/

namespace HttpService

/-- A name under which the service itself writes nothing but identifiers. -/
structure Unreserved (name : String) : Prop where
  allow : foldCase (sanitize "Allow") ≠ foldCase name
  contentType : foldCase (sanitize "Content-Type") ≠ foldCase name
  contentLength : foldCase (sanitize "Content-Length") ≠ foldCase name

namespace Response

variable {World : Type}

section

variable {name : String}

theorem all?_setTyped (unreserved : Unreserved name) (response : Response) (type : MediaType)
    (body : Bytes) : (response.setTyped type body).headers.all? name = response.headers.all? name := by
  show ((response.headers.set "Content-Type" type.render).set "Content-Length"
    (toString body.length)).all? name = _
  rw [Headers.all?_set_of_ne unreserved.contentLength, Headers.all?_set_of_ne unreserved.contentType]

theorem all?_writeError (unreserved : Unreserved name) {error : HttpError World}
    (spares : error.headers.Spares name) (response : Response) :
    (response.writeError error).headers.all? name = response.headers.all? name := by
  unfold writeError setText
  rw [all?_setTyped unreserved]
  exact Headers.all?_merge_of_spares spares response.headers

theorem all?_stateLength (unreserved : Unreserved name) (response : Response) :
    response.stateLength.headers.all? name = response.headers.all? name := by
  unfold stateLength
  split
  · rfl
  · exact Headers.all?_set_of_ne unreserved.contentLength _

theorem all?_stripBody (unreserved : Unreserved name) (response : Response) :
    response.stripBody.headers.all? name = response.headers.all? name :=
  all?_stateLength unreserved response

end

theorem body_writeError (response : Response) (error : HttpError World) :
    (response.writeError error).body = Utf8.encode error.body :=
  rfl

/-- The body of an error says at least its code. -/
theorem body_writeError_ne_nil (response : Response) (error : HttpError World) :
    (response.writeError error).body ≠ [] := by
  intro empty
  rw [body_writeError, Utf8.encode_eq_spell] at empty
  have colon : Utf8.octet ':' ∈ Utf8.spell error.body.toList := by
    rw [Utf8.octet_mem_spell (by decide)]
    simp [HttpError.body, errorBody]
  rw [empty] at colon
  cases colon

/-! ## What is sent -/

theorem sanitize_toString (size : Nat) : sanitize (toString size) = toString size := by
  apply Headers.sanitize_eq_self
  intro c member
  have digits : (toString size).toList = Nat.toDigits 10 size := String.toList_ofList
  rw [digits] at member
  exact (Wire.storable_of_isDigit (Wire.isDigit_of_mem_toDigits member)).1

theorem sanitize_contentType : sanitize "Content-Type" = "Content-Type" := by decide

theorem sanitize_contentLength : sanitize "Content-Length" = "Content-Length" := by decide

theorem sentFields_stripBody (response : Response) :
    response.stripBody.sentFields = response.sentFields := by
  unfold stripBody stateLength sentFields
  by_cases stated : response.headers.contains "Content-Length" = true
  · rw [if_pos stated, if_pos stated, if_pos stated]
  · have absent : response.headers.contains (sanitize "Content-Length") = false := by
      rw [sanitize_contentLength]
      exact Bool.eq_false_iff.mpr stated
    have present := response.headers.contains_set_self "Content-Length"
      (toString response.body.length)
    rw [sanitize_contentLength] at present
    have fields := Headers.toList_set_of_absent absent (toString response.body.length)
    rw [sanitize_contentLength, sanitize_toString] at fields
    rw [if_neg stated, if_neg stated]
    unfold setHeader
    simp only
    rw [if_pos present, fields, List.append_nil]

/-- What is sent of a response without its body is what is sent of it in front of the body. -/
theorem toBytes_eq_stripBody (response : Response) :
    response.toBytes = response.stripBody.toBytes ++ response.body := by
  have status : response.stripBody.status = response.status := by
    unfold stripBody stateLength
    split
    · rfl
    · rfl
  unfold toBytes
  rw [sentFields_stripBody, status]
  simp [stripBody]

end Response

end HttpService
