import HttpService.Proofs.Headers.Stored
import HttpService.Proofs.Responses.Writing
import HttpService.Proofs.Wire.PlainHead

/-!
Contract: the octets of a response as its lines and its body.

Owns:
- the texts of the lines that are sent, which hold field characters only;
- what is sent as these lines, an empty line and the body;
- **a response cannot be split**: whatever its headers were built from, the first empty line ends
  the head, the head has exactly the lines of its fields, and all else is the body.

Does not own: which fields a response has.
-/

namespace HttpService.Response

/-- The status line without its end. -/
def statusText (status : Status) : String :=
  "HTTP/1.1 " ++ toString status.code ++ " " ++ status.reason

/-- The line of a field without its end. -/
def fieldText (field : String × String) : String :=
  field.1 ++ ": " ++ field.2

/-! ## The lines -/

theorem storable_statusText (status : Status) : Storable (statusText status) := by
  have chars : (statusText status).toList.all isFieldChar = true := by
    cases status <;> decide +kernel
  exact List.all_eq_true.mp chars

theorem storable_fieldText {field : String × String} (name : Storable field.1)
    (value : Storable field.2) : Storable (fieldText field) := by
  intro c member
  simp only [fieldText, String.toList_append, List.mem_append] at member
  rcases member with (inName | inColon) | inValue
  · exact name c inName
  · have between : (": " : String).toList.all isFieldChar = true := by decide
    exact List.all_eq_true.mp between c inColon
  · exact value c inValue

theorem fieldText_ne_nil (field : String × String) : (fieldText field).toList ≠ [] := by
  intro empty
  have colon : ':' ∈ (fieldText field).toList := by simp [fieldText]
  rw [empty] at colon
  cases colon

section

variable {response : Response}

/-- Without a line for it, the length is sent as the last field. -/
theorem sentFields_of_tidy (tidy : response.headers.Tidy) :
    response.sentFields =
      response.headers.toList ++
        if response.headers.valuesOf "Content-Length" = [] then
          [("Content-Length", toString response.body.length)]
        else [] := by
  have known := tidy.contains_iff "Content-Length"
  unfold sentFields
  by_cases none : response.headers.valuesOf "Content-Length" = []
  · rw [if_pos none, if_neg fun contained => known.mp contained none]
  · rw [if_neg none, if_pos (known.mpr none)]

theorem storable_of_mem_sentFields (tidy : response.headers.Tidy) {field : String × String}
    (member : field ∈ response.sentFields) : Storable field.1 ∧ Storable field.2 := by
  unfold sentFields at member
  rcases List.mem_append.mp member with held | added
  · exact tidy.storable_of_mem held
  · split at added
    · cases added
    · rw [List.mem_singleton.mp added]
      have size := sanitize_toString response.body.length
      exact ⟨sanitize_contentLength ▸ storable_sanitize _, size ▸ storable_sanitize _⟩

theorem plainLines (tidy : response.headers.Tidy) :
    Wire.PlainLines (statusText response.status) (response.sentFields.map fieldText) where
  storable := by
    intro line member
    rcases List.mem_cons.mp member with rfl | inFields
    · exact storable_statusText response.status
    · obtain ⟨field, sent, rfl⟩ := List.mem_map.mp inFields
      obtain ⟨name, value⟩ := storable_of_mem_sentFields tidy sent
      exact storable_fieldText name value
  filled := by
    intro line member
    obtain ⟨field, _, rfl⟩ := List.mem_map.mp member
    exact fieldText_ne_nil field

end

/-! ## The octets -/

theorem encode_line (text : String) : Utf8.encode (text ++ "\r\n") = Utf8.encode text ++ Wire.crlf := by
  have lineEnd : Utf8.spell ("\r\n" : String).toList = Wire.crlf := by decide
  rw [Utf8.encode_eq_spell, String.toList_append, Utf8.spell_append, lineEnd, Utf8.encode_eq_spell]

/-- Ends behind lines are ends in front of them, with one more in front. -/
theorem crlf_append_flatMap (lines : List Bytes) :
    Wire.crlf ++ lines.flatMap (· ++ Wire.crlf) = lines.flatMap (Wire.crlf ++ ·) ++ Wire.crlf := by
  induction lines with
  | nil => rfl
  | cons line rest inductionHypothesis =>
      rw [List.flatMap_cons, List.flatMap_cons, List.append_assoc line, inductionHypothesis]
      simp only [List.append_assoc]

/-- A response is sent as lines with an empty line behind them, and its body. -/
theorem toBytes_eq_headed (response : Response) :
    response.toBytes =
      Wire.headed (statusText response.status) (response.sentFields.map fieldText)
        response.body := by
  have fields : (response.sentFields.flatMap fun field => Utf8.encode (headerLine field)) =
      ((response.sentFields.map fieldText).map Utf8.encode).flatMap (· ++ Wire.crlf) := by
    rw [List.map_map, List.flatMap_map]
    exact congrArg (response.sentFields.flatMap ·) (funext fun field => encode_line (fieldText field))
  have status : Utf8.encode (statusLine response.status) =
      Utf8.encode (statusText response.status) ++ Wire.crlf := encode_line _
  have blank : Utf8.encode "\r\n" = Wire.crlf := by decide
  unfold toBytes Wire.headed Wire.joined
  rw [fields, status, blank, List.append_assoc (Utf8.encode _), crlf_append_flatMap]
  simp only [List.append_assoc]

/-- **A response cannot be split.** Whatever texts its headers have been built from, and whatever
its body is, the first CR LF CR LF that is sent ends the head. The lines of the head are the status
line and one line for each field in order, with one for the length at the end if no field says it;
no line holds a CR or an LF. All that follows is the body. -/
theorem toBytes_framed {response : Response} (built : response.headers.Built) :
    ∃ length, Wire.FirstBlank response.toBytes length ∧
      Wire.linesOf (some (response.toBytes.take length)) =
        (statusText response.status ::
          (response.headers.toList ++
            if response.headers.valuesOf "Content-Length" = [] then
              [("Content-Length", toString response.body.length)]
            else []).map fieldText).map Utf8.encode ∧
      (∀ line ∈ Wire.linesOf (some (response.toBytes.take length)),
        Wire.cr ∉ line ∧ Wire.lf ∉ line) ∧
      response.toBytes.drop (length + 4) = response.body := by
  have lines := plainLines built.tidy
  rw [← sentFields_of_tidy built.tidy, toBytes_eq_headed]
  refine ⟨_, lines.firstBlank response.body, ?_⟩
  rw [Wire.take_headed, lines.linesOf_joined]
  refine ⟨rfl, ?_, ?_⟩
  · intro line member
    obtain ⟨text, inside, rfl⟩ := List.mem_map.mp member
    have noReturn := lines.octet_not_mem (c := '\r') (by decide) (by decide) inside
    have noFeed := lines.octet_not_mem (c := '\n') (by decide) (by decide) inside
    exact ⟨noReturn, noFeed⟩
  · unfold Wire.headed
    rw [List.append_assoc, List.drop_length_add_append]
    rfl

/-- A response whose headers were to be ended early, by line ends in names and in values. -/
def injected : Response where
  status := .ok
  headers :=
    ((Headers.empty.set "Server\r\n\r\n" "x\r\n\r\n<b>").append "" "\r\n").merge
      ((Headers.empty.append "Set-Cookie: a=b\r\nX" "é").append "server" "\r\n\r\n")
  body := Utf8.encode "\r\n\r\nHTTP/1.1 200 OK\r\n\r\n"

theorem built_injected : injected.headers.Built :=
  .merge (.append (.set .empty _ _) _ _) (.append (.append .empty _ _) _ _)

theorem toBytes_framed_injected :
    injected.headers.Built ∧
      ∃ length, Wire.FirstBlank injected.toBytes length ∧
        Wire.linesOf (some (injected.toBytes.take length)) =
          ["HTTP/1.1 200 OK", "Server: ", ": ", "Set-Cookie: a=bX: ", "Content-Length: 23"].map
            Utf8.encode ∧
        injected.toBytes.drop (length + 4) = injected.body := by
  obtain ⟨length, blank, lines, _, rest⟩ := toBytes_framed built_injected
  refine ⟨built_injected, length, blank, ?_, rest⟩
  rw [lines]
  decide +kernel

end HttpService.Response
