import HttpService.Proofs.Responses.Sent

/-!
Contract: responses that have been edited in any order.

Owns:
- the edits of a response: its bodies, its status, errors that are written on it, and its headers;
- what each edit keeps of a response whose headers do not contradict its body, and so any sequence
  of them;
- the lines that state a length, among all that are sent;
- **of an edited response exactly one line states a length, which is that of the body**, and it
  stays when the body is dropped.

Does not own: which edits a handler makes.
-/

namespace HttpService

/-! ## Names without colons -/

/-- No name in the map holds a colon, so that the first one on a line ends its name. -/
def Headers.Colonless (headers : Headers) : Prop :=
  ∀ entry ∈ headers.entries, ':' ∉ entry.name.toList

theorem colon_not_mem_sanitize {name : String} (none : ':' ∉ name.toList) :
    ':' ∉ (sanitize name).toList := by
  unfold sanitize
  rw [String.toList_ofList]
  exact fun member => none (List.mem_filter.mp member).1

namespace Headers.Colonless

variable {headers : Headers} {name : String}

theorem set (colonless : headers.Colonless) (none : ':' ∉ name.toList) (value : String) :
    (headers.set name value).Colonless :=
  forall_mem_upsert (fun _ held => held) (colon_not_mem_sanitize none) colonless

theorem append (colonless : headers.Colonless) (none : ':' ∉ name.toList) (value : String) :
    (headers.append name value).Colonless :=
  forall_mem_upsert (fun _ held => held) (colon_not_mem_sanitize none) colonless

theorem erase (colonless : headers.Colonless) (name : String) : (headers.erase name).Colonless :=
  fun entry member => colonless entry (List.mem_of_mem_eraseP member)

theorem foldl_append (none : ':' ∉ name.toList) (values : List String) :
    ∀ {headers : Headers}, headers.Colonless →
      (values.foldl (fun held next => held.append name next) headers).Colonless := by
  induction values with
  | nil => exact fun colonless => colonless
  | cons value rest inductionHypothesis =>
      exact fun colonless => inductionHypothesis (colonless.append none value)

theorem merge (colonless : headers.Colonless) {other : Headers} (further : other.Colonless) :
    (headers.merge other).Colonless := by
  obtain ⟨entries⟩ := other
  show Colonless (entries.foldl Headers.override headers)
  induction entries generalizing headers with
  | nil => exact colonless
  | cons entry rest inductionHypothesis =>
      have none := further entry List.mem_cons_self
      have overridden : (headers.override entry).Colonless := by
        unfold Headers.override
        split
        · exact colonless
        · exact foldl_append none _ (colonless.set none _)
      exact inductionHypothesis overridden fun later member =>
        further later (List.mem_cons_of_mem entry member)

end Headers.Colonless

namespace Response

variable {World : Type}

/-! ## Edits -/

/-- What a handler or a middleware can do to a response. -/
inductive Edit (World : Type) where
  /-- Gives it a body, of which nothing but the length is stated. -/
  | body (octets : Bytes)
  | bodyText (text : String)
  | text (text : String)
  /-- Gives it a value as its body, unless the value cannot be written. -/
  | json (value : Except Json.Failure Json.Value)
  | bytes (type : MediaType) (octets : Bytes)
  | status (status : Status)
  | error (error : HttpError World)
  | set (name value : String)
  | append (name value : String)
  | remove (name : String)

/-- The response after an edit. -/
def edit (response : Response) : Edit World → Response
  | .body octets => response.setBody octets
  | .bodyText text => response.setBody (Utf8.encode text)
  | .text text => response.setText text
  | .json (.ok value) => response.setJson value
  | .json (.error _) => response
  | .bytes type octets => response.setTyped type octets
  | .status status => { response with status := status }
  | .error error => response.writeError error
  | .set name value => response.setHeader name value
  | .append name value => response.appendHeader name value
  | .remove name => response.removeHeader name

/-- A name that may be edited by hand: it is not stored as the length, and has no colon. -/
structure Editable (name : String) : Prop where
  other : foldCase (sanitize name) ≠ foldCase "Content-Length"
  colonless : ':' ∉ name.toList

/-- Edits that do not state a length by hand, except with an error, and use no name with a colon. Any
name may be removed. -/
def Edit.Admissible : Edit World → Prop
  | .error refusal => refusal.headers.Colonless
  | .set name _ => Editable name
  | .append name _ => Editable name
  | _ => True

/-- The headers do not contradict the body. -/
structure Consistent (response : Response) : Prop where
  tidy : response.headers.Tidy
  colonless : response.headers.Colonless
  length : ∀ values, response.headers.all? "Content-Length" = some values →
    values = [toString response.body.length]

section

variable {response : Response}

theorem consistent_ofStatus (status : Status) : (ofStatus status).Consistent where
  tidy := Headers.tidy_empty.set "Server" serverName
  colonless := by
    intro entry member
    rw [List.mem_singleton.mp member]
    decide
  length := by
    intro values stated
    have absent : (Headers.empty.set "Server" serverName).all? "Content-Length" = none := by
      decide
    cases absent.symm.trans stated

theorem Consistent.setHeader (consistent : response.Consistent) {name : String}
    (editable : Editable name) (value : String) : (response.setHeader name value).Consistent where
  tidy := consistent.tidy.set name value
  colonless := consistent.colonless.set editable.colonless value
  length := by
    intro values stated
    have same : (response.headers.set name value).all? "Content-Length" =
        response.headers.all? "Content-Length" := Headers.all?_set_of_ne editable.other value
    exact consistent.length values (same.symm.trans stated)

theorem Consistent.appendHeader (consistent : response.Consistent) {name : String}
    (editable : Editable name) (value : String) :
    (response.appendHeader name value).Consistent where
  tidy := consistent.tidy.append name value
  colonless := consistent.colonless.append editable.colonless value
  length := by
    intro values stated
    have same : (response.headers.append name value).all? "Content-Length" =
        response.headers.all? "Content-Length" := Headers.all?_append_of_ne editable.other value
    exact consistent.length values (same.symm.trans stated)

theorem Consistent.removeHeader (consistent : response.Consistent) (name : String) :
    (response.removeHeader name).Consistent where
  tidy := consistent.tidy.erase name
  colonless := consistent.colonless.erase name
  length := by
    intro values stated
    have left := consistent.tidy.all?_erase name "Content-Length"
    have found : (response.headers.erase name).all? "Content-Length" = some values := stated
    rw [left] at found
    split at found
    · cases found
    · exact consistent.length values found

/-- A body states its length, whatever has been stated before. -/
theorem consistent_setBody (tidy : response.headers.Tidy) (colonless : response.headers.Colonless)
    (body : Bytes) : (response.setBody body).Consistent where
  tidy := tidy.set "Content-Length" (toString body.length)
  colonless := colonless.set (by decide) _
  length := by
    intro values stated
    have here := response.headers.all?_set_self "Content-Length" (toString body.length)
    rw [sanitize_contentLength, sanitize_toString] at here
    exact (Option.some.inj (here.symm.trans stated)).symm

theorem consistent_setTyped (tidy : response.headers.Tidy) (colonless : response.headers.Colonless)
    (type : MediaType) (body : Bytes) : (response.setTyped type body).Consistent :=
  consistent_setBody (tidy.set "Content-Type" type.render) (colonless.set (by decide) type.render)
    body

theorem Consistent.writeError (consistent : response.Consistent) {error : HttpError World}
    (colonless : error.headers.Colonless) : (response.writeError error).Consistent :=
  consistent_setTyped (consistent.tidy.merge error.headers)
    (consistent.colonless.merge colonless) _ _

/-- **What an edit keeps.** -/
theorem Consistent.edit (consistent : response.Consistent) {edit : Edit World}
    (admissible : edit.Admissible) : (response.edit edit).Consistent := by
  obtain ⟨tidy, colonless, length⟩ := id consistent
  cases edit with
  | body octets => exact consistent_setBody tidy colonless octets
  | bodyText text => exact consistent_setBody tidy colonless (Utf8.encode text)
  | text text => exact consistent_setTyped tidy colonless _ _
  | json value =>
      cases value with
      | ok value => exact consistent_setTyped tidy colonless _ _
      | error failure => exact consistent
  | bytes type octets => exact consistent_setTyped tidy colonless type octets
  | status status => exact ⟨tidy, colonless, length⟩
  | error error => exact consistent.writeError admissible
  | set name value => exact consistent.setHeader admissible value
  | append name value => exact consistent.appendHeader admissible value
  | remove name => exact consistent.removeHeader name

/-- **What any sequence of edits keeps.** -/
theorem Consistent.foldl_edit {edits : List (Edit World)}
    (admissible : ∀ edit ∈ edits, edit.Admissible) :
    ∀ {response : Response}, response.Consistent →
      (edits.foldl Response.edit response).Consistent := by
  induction edits with
  | nil => exact fun consistent => consistent
  | cons edit rest inductionHypothesis =>
      obtain ⟨here, further⟩ := List.forall_mem_cons.mp admissible
      exact fun consistent => inductionHypothesis further (consistent.edit here)

/-! ## Lines that state a length -/

/-- Whether the text in front of the first colon of a line is the name of the length. -/
def statesLength (line : Bytes) : Bool :=
  match Wire.headField? line with
  | some (name, _) => Wire.isLengthName name
  | none => false

theorem headField?_encode {text : String} (storable : Storable text) :
    Wire.headField? (Utf8.encode text) = Text.cut? ':' text.toList := by
  have kept : Text.trimEndWhile (· == '\r') text.toList = text.toList := by
    apply Text.trimEndWhile_eq_self
    intro c last
    have field := storable c (List.mem_of_getLast? last)
    rw [beq_eq_false_iff_ne]
    rintro rfl
    cases field
  unfold Wire.headField?
  rw [Utf8.decode?_encode, Option.bind_some, kept]

theorem statesLength_statusText (status : Status) :
    statesLength (Utf8.encode (statusText status)) = false := by
  have none : Text.cut? ':' (statusText status).toList = none := by
    rw [Text.cut?_eq_none_iff]
    cases status <;> decide +kernel
  unfold statesLength
  rw [headField?_encode (storable_statusText status), none]

theorem statesLength_fieldText {field : String × String} (colonless : ':' ∉ field.1.toList)
    (name : Storable field.1) (value : Storable field.2) :
    statesLength (Utf8.encode (fieldText field)) =
      decide (foldCase field.1 = foldCase "Content-Length") := by
  have chars : (fieldText field).toList = field.1.toList ++ ':' :: ' ' :: field.2.toList := by
    simp [fieldText]
  unfold statesLength
  rw [headField?_encode (storable_fieldText name value), chars, Text.cut?_append colonless]
  simp only
  rw [Bool.eq_iff_iff, decide_eq_true_iff, Wire.isLengthName_iff]

theorem Consistent.colonless_of_sent (consistent : response.Consistent) {field : String × String}
    (sent : field ∈ response.sentFields) : ':' ∉ field.1.toList := by
  unfold sentFields at sent
  rcases List.mem_append.mp sent with held | added
  · unfold Headers.toList at held
    obtain ⟨entry, member, inside⟩ := List.mem_flatMap.mp held
    obtain ⟨value, _, rfl⟩ := List.mem_map.mp inside
    exact consistent.colonless entry member
  · split at added
    · cases added
    · rw [List.mem_singleton.mp added]
      show ':' ∉ ("Content-Length" : String).toList
      decide

/-- Exactly one field that is sent states a length, and it is that of the body. -/
theorem Consistent.sentFields_filter (consistent : response.Consistent) :
    ∃ name, foldCase name = foldCase "Content-Length" ∧
      (response.sentFields.filter fun field => foldCase field.1 = foldCase "Content-Length") =
        [(name, toString response.body.length)] := by
  have values := consistent.tidy.valuesOf_eq "Content-Length"
  rw [sentFields_of_tidy consistent.tidy, List.filter_append]
  cases stated : response.headers.all? "Content-Length" with
  | none =>
      rw [stated, Option.getD_none] at values
      have none := List.map_eq_nil_iff.mp values
      refine ⟨"Content-Length", rfl, ?_⟩
      rw [if_pos values, none]
      simp
  | some texts =>
      rw [stated, Option.getD_some, consistent.length texts stated] at values
      obtain ⟨field, only, value⟩ := List.map_eq_singleton_iff.mp values
      have named := (List.mem_filter.mp (only ▸ List.mem_singleton_self field)).2
      refine ⟨field.1, of_decide_eq_true named, ?_⟩
      rw [if_neg (by rw [values]; exact List.cons_ne_nil _ _), only, ← value]
      rfl

/-- Exactly one line that is sent states a length, and it is that of the body. -/
theorem Consistent.lines_filter (consistent : response.Consistent) :
    ∃ name, foldCase name = foldCase "Content-Length" ∧
      ((statusText response.status :: response.sentFields.map fieldText).map Utf8.encode).filter
        statesLength = [Utf8.encode (fieldText (name, toString response.body.length))] := by
  obtain ⟨name, named, only⟩ := consistent.sentFields_filter
  refine ⟨name, named, ?_⟩
  have fields : (response.sentFields.filter fun field =>
      statesLength (Utf8.encode (fieldText field))) =
        response.sentFields.filter fun field => foldCase field.1 = foldCase "Content-Length" := by
    apply List.filter_congr
    intro field sent
    obtain ⟨storableName, storableValue⟩ := storable_of_mem_sentFields consistent.tidy sent
    exact statesLength_fieldText (consistent.colonless_of_sent sent) storableName storableValue
  rw [List.map_cons, List.filter_cons_of_neg (by simp [statesLength_statusText]), List.map_map,
    List.filter_map]
  show (response.sentFields.filter fun field => statesLength (Utf8.encode (fieldText field))).map _ = _
  rw [fields, only]
  rfl

/-- Without its body a response is sent as the same lines. -/
theorem toBytes_stripBody (response : Response) :
    response.stripBody.toBytes =
      Wire.headed (statusText response.status) (response.sentFields.map fieldText) [] := by
  have whole := (toBytes_eq_stripBody response).symm.trans (toBytes_eq_headed response)
  rw [← List.append_left_inj response.body, whole]
  simp [Wire.headed]

end

/-- **An edited response states its length once.** Start with a new response, for a status or for a
method, and edit it any number of times in any order: give it bodies, values that can or cannot be
written, a status, errors with any headers, which may state a length of their own; set and append
headers under names that are not stored as that of the length, and remove any header; no name that
is used has a colon. Then exactly one line of the head that is sent has the name of the length in
front of its first colon, whatever its casing, and it states the number of octets that follow the
head, which are the body. Once the body is dropped, exactly the same line states a length, and
nothing follows the head. -/
theorem toBytes_edited {start : Response}
    (fresh : (∃ status, start = .ofStatus status) ∨ ∃ method, start = .forMethod method)
    {edits : List (Edit World)} (admissible : ∀ edit ∈ edits, edit.Admissible) :
    let response := edits.foldl edit start
    ∃ length name, foldCase name = foldCase "Content-Length" ∧
      Wire.FirstBlank response.toBytes length ∧
      response.toBytes.drop (length + 4) = response.body ∧
      (Wire.linesOf (some (response.toBytes.take length))).filter statesLength =
        [Utf8.encode (fieldText
          (name, toString (response.toBytes.drop (length + 4)).length))] ∧
      Wire.FirstBlank response.stripBody.toBytes length ∧
      response.stripBody.toBytes.drop (length + 4) = [] ∧
      (Wire.linesOf (some (response.stripBody.toBytes.take length))).filter statesLength =
        [Utf8.encode (fieldText
          (name, toString (response.toBytes.drop (length + 4)).length))] := by
  intro response
  have begun : start.Consistent := by
    rcases fresh with ⟨status, rfl⟩ | ⟨method, rfl⟩
    · exact consistent_ofStatus status
    · exact consistent_ofStatus (defaultStatus method)
  have consistent : response.Consistent := begun.foldl_edit admissible
  obtain ⟨name, named, only⟩ := consistent.lines_filter
  have lines := plainLines consistent.tidy
  have behind : ∀ rest, (Wire.headed (statusText response.status)
      (response.sentFields.map fieldText) rest).drop
        ((Wire.joined (Utf8.encode (statusText response.status))
          ((response.sentFields.map fieldText).map Utf8.encode)).length + 4) = rest := by
    intro rest
    unfold Wire.headed
    rw [List.append_assoc, List.drop_length_add_append]
    rfl
  rw [toBytes_stripBody, toBytes_eq_headed]
  refine ⟨_, name, named, lines.firstBlank response.body, behind response.body, ?_,
    lines.firstBlank [], behind [], ?_⟩
  · rw [behind, Wire.take_headed, lines.linesOf_joined, only]
  · rw [behind, Wire.take_headed, lines.linesOf_joined, only]

/-- An error whose headers state a length and a type of their own. -/
def lengthyError : HttpError Unit :=
  ((HttpError.ofStatus .badRequest).withHeader "content-LENGTH" "99").withHeader "Content-Type" "x"

/-- Edits that contradict each other about the length and the body. -/
def contraryEdits : List (Edit Unit) :=
  [.text "a", .remove "CONTENT-length", .error lengthyError, .json (.error (.custom "no value")),
    .set "content_length" "7", .append "Content Length" "8", .bodyText "hello"]

theorem toBytes_contraryEdits :
    (∀ edit ∈ contraryEdits, edit.Admissible) ∧
      ∃ length name, foldCase name = foldCase "Content-Length" ∧
        (Wire.linesOf (some ((contraryEdits.foldl edit (.forMethod .post)).toBytes.take
          length))).filter statesLength = [Utf8.encode (fieldText (name, "5"))] ∧
        (contraryEdits.foldl edit (.forMethod .post)).toBytes.drop (length + 4) =
          Utf8.encode "hello" ∧
        (Wire.linesOf (some ((contraryEdits.foldl edit (.forMethod .post)).stripBody.toBytes.take
          length))).filter statesLength = [Utf8.encode (fieldText (name, "5"))] := by
  have admissible : ∀ edit ∈ contraryEdits, edit.Admissible := by
    simp only [contraryEdits, List.forall_mem_cons, List.not_mem_nil, false_imp_iff, implies_true,
      and_true]
    refine ⟨trivial, trivial, ?_, trivial, ⟨by decide, by decide⟩, ⟨by decide, by decide⟩, trivial⟩
    intro entry member
    revert entry
    decide
  obtain ⟨length, name, named, -, body, line, -, -, stripped⟩ :=
    toBytes_edited (.inr ⟨.post, rfl⟩) admissible
  refine ⟨admissible, length, name, named, ?_, body, ?_⟩
  · rw [line, body]
    rfl
  · rw [stripped, body]
    rfl

end Response

end HttpService
