import HttpService.Proofs.Text.Numeral
import HttpService.Proofs.Text.Trim
import HttpService.Proofs.Wire.Heads

/-!
Contract: a request that is written out is read back.

Owns:
- the written form of a request line, of header lines and of a head;
- the fields that a line can carry unchanged;
- **reading as the inverse of writing**, whatever follows the body.

Does not own: the written form of a target, which is taken as it is.
-/

namespace HttpService.Wire

open Headers (ofFields firstField?)

/-- The written form of a field. -/
def renderField (field : String × String) : Bytes :=
  Utf8.encode (field.1 ++ ": " ++ field.2) ++ crlf

/-- The parts of a request as they are written. -/
structure Draft where
  method : Method
  target : String
  fields : List (String × String)
  body : Bytes
deriving DecidableEq, Repr

/-- The text of the request line. -/
def Draft.requestLine (draft : Draft) : String :=
  draft.method.token ++ " " ++ draft.target ++ " " ++ version

/-- The header lines, and the empty line behind them. -/
def Draft.head (draft : Draft) : Bytes :=
  draft.fields.flatMap renderField ++ crlf

/-- The written form of a request. -/
def Draft.render (draft : Draft) : Bytes :=
  Utf8.encode draft.requestLine ++ crlf ++ (draft.head ++ draft.body)

/-- A field that a line carries unchanged: a name of printable ASCII without a colon and a
value of printable ASCII and tabs, neither with white space at its ends. -/
structure Writable (field : String × String) : Prop where
  named : field.1 ≠ ""
  nameChars : ∀ c ∈ field.1.toList, 0x20 ≤ c.toNat ∧ c.toNat ≤ 0x7E ∧ c ≠ ':'
  nameStart : field.1.toList.head? ≠ some ' '
  nameEnd : field.1.toList.getLast? ≠ some ' '
  valueChars : ∀ c ∈ field.2.toList, isFieldChar c = true
  valueStart : field.2.toList.head? ≠ some ' ' ∧ field.2.toList.head? ≠ some '\t'
  valueEnd : field.2.toList.getLast? ≠ some ' ' ∧ field.2.toList.getLast? ≠ some '\t'

-- Stated with `all`, since a quantifier over characters may be decided by trying every one.
theorem writable_iff (field : String × String) :
    Writable field ↔
      field.1 ≠ "" ∧
      field.1.toList.all (fun c => 0x20 ≤ c.toNat && c.toNat ≤ 0x7E && c != ':') = true ∧
      field.1.toList.head? ≠ some ' ' ∧ field.1.toList.getLast? ≠ some ' ' ∧
      field.2.toList.all isFieldChar = true ∧
      (field.2.toList.head? ≠ some ' ' ∧ field.2.toList.head? ≠ some '\t') ∧
      field.2.toList.getLast? ≠ some ' ' ∧ field.2.toList.getLast? ≠ some '\t' := by
  have nameChars : field.1.toList.all
      (fun c => 0x20 ≤ c.toNat && c.toNat ≤ 0x7E && c != ':') = true ↔
        ∀ c ∈ field.1.toList, 0x20 ≤ c.toNat ∧ c.toNat ≤ 0x7E ∧ c ≠ ':' := by
    simp [and_assoc]
  rw [nameChars, List.all_eq_true]
  constructor
  · intro writable
    exact ⟨writable.named, writable.nameChars, writable.nameStart, writable.nameEnd,
      writable.valueChars, writable.valueStart, writable.valueEnd⟩
  · rintro ⟨named, nameChars, nameStart, nameEnd, valueChars, valueStart, valueEnd⟩
    exact ⟨named, nameChars, nameStart, nameEnd, valueChars, valueStart, valueEnd⟩

instance (field : String × String) : Decidable (Writable field) :=
  decidable_of_iff _ (writable_iff field).symm

/-! ## Fields -/

theorem isFieldChar_iff (c : Char) :
    isFieldChar c = true ↔ c = '\t' ∨ 0x20 ≤ c.toNat ∧ c.toNat ≤ 0x7E := by
  simp [isFieldChar]

/-- Of the characters that a field may hold, only two are white space. -/
theorem isBlank_of_isFieldChar {c : Char} (storable : isFieldChar c = true) (notSpace : c ≠ ' ')
    (notTab : c ≠ '\t') : Text.isBlank c = false := by
  have code : c.toNat ≠ 0x20 := by
    intro equal
    apply notSpace
    rw [← Char.ofNat_toNat c, equal]
  have bounds := ((isFieldChar_iff c).mp storable).resolve_left notTab
  unfold Text.isBlank
  simp
  omega

theorem Writable.name_storable {field : String × String} (writable : Writable field) :
    ∀ c ∈ field.1.toList, isFieldChar c = true := by
  intro c member
  obtain ⟨low, high, _⟩ := writable.nameChars c member
  exact (isFieldChar_iff c).mpr (Or.inr ⟨low, high⟩)

theorem Writable.trim_name {field : String × String} (writable : Writable field) :
    Text.trim field.1.toList = field.1.toList := by
  have kept : ∀ c ∈ field.1.toList, c ≠ ' ' → Text.isBlank c = false := by
    intro c member notSpace
    apply isBlank_of_isFieldChar (writable.name_storable c member) notSpace
    rintro rfl
    exact absurd (writable.nameChars '\t' member).1 (by decide)
  apply Text.trim_eq_self
  · intro c first
    apply kept c (List.mem_of_head? first)
    rintro rfl
    exact writable.nameStart first
  · intro c last
    apply kept c (List.mem_of_getLast? last)
    rintro rfl
    exact writable.nameEnd last

theorem Writable.trim_value {field : String × String} (writable : Writable field) :
    Text.trim (' ' :: field.2.toList) = field.2.toList := by
  rw [Text.trim_cons_of_blank (by decide)]
  apply Text.trim_eq_self
  · intro c first
    apply isBlank_of_isFieldChar (writable.valueChars c (List.mem_of_head? first))
    · rintro rfl
      exact writable.valueStart.1 first
    · rintro rfl
      exact writable.valueStart.2 first
  · intro c last
    apply isBlank_of_isFieldChar (writable.valueChars c (List.mem_of_getLast? last))
    · rintro rfl
      exact writable.valueEnd.1 last
    · rintro rfl
      exact writable.valueEnd.2 last

theorem Writable.stored {field : String × String} (writable : Writable field) :
    sanitize field.1 = field.1 ∧ sanitize field.2 = field.2 :=
  ⟨Headers.sanitize_eq_self writable.name_storable, Headers.sanitize_eq_self writable.valueChars⟩

theorem readField_encode {field : String × String} (writable : Writable field) :
    readField (Utf8.encode (field.1 ++ ": " ++ field.2)) = .ok field := by
  have shape : (field.1 ++ ": " ++ field.2).toList =
      field.1.toList ++ ':' :: ' ' :: field.2.toList := by
    simp
  have noColon : ':' ∉ field.1.toList := fun member => (writable.nameChars ':' member).2.2 rfl
  have filled : field.1.toList ≠ [] := fun empty => writable.named (String.toList_eq_nil_iff.mp empty)
  unfold readField
  rw [Utf8.decode?_encode]
  simp only [shape, Text.cut?_append noColon, writable.trim_name, writable.trim_value,
    String.ofList_toList, filled, ne_eq, not_true_eq_false, or_self, if_false]

/-! ## Lines -/

theorem Writable.unbroken {field : String × String} (writable : Writable field) :
    Unbroken (Utf8.encode (field.1 ++ ": " ++ field.2)) := by
  apply unbroken_encode
  intro member
  simp only [String.toList_append, List.mem_append] at member
  rcases member with (inName | inColon) | inValue
  · exact absurd (writable.nameChars '\r' inName).1 (by decide)
  · exact absurd inColon (by decide)
  · exact absurd (writable.valueChars '\r' inValue) (by decide)

theorem readHeaders_render (rest : Bytes) : ∀ (fields : List (String × String))
    (headers : Headers), (∀ field ∈ fields, Writable field) →
    readHeaders headers (some (fields.flatMap renderField ++ crlf ++ rest)) =
      .ok (fields.foldl (fun held field => held.append field.1 field.2) headers, rest)
  | [], headers, _ => readHeaders_blank headers rest
  | field :: fields, headers, writable => by
      have first := writable field (by simp)
      have further := readHeaders_render rest fields (headers.append field.1 field.2)
        fun other member => writable other (List.mem_cons_of_mem field member)
      have filled : Utf8.encode (field.1 ++ ": " ++ field.2) ≠ [] := by
        intro empty
        have read := readField_encode first
        rw [empty] at read
        cases read
      rw [List.flatMap_cons, renderField, List.append_assoc, List.append_assoc,
        readHeaders_line headers _ first.unbroken filled, readField_encode first]
      rw [← List.append_assoc]
      exact further

/-! ## Whole requests -/

/-- Parts of which the written form has a meaning of its own: a target that stands for
`target`, fields that lines carry, and a body that the fields declare. -/
structure Draft.Sound (draft : Draft) (target : Target) (maxBody : Nat) : Prop where
  /-- A TRACE request has all of its octets as its body. -/
  notTrace : draft.method ≠ .trace
  noSpace : ' ' ∉ draft.target.toList
  noReturn : '\r' ∉ draft.target.toList
  short : draft.target.utf8ByteSize ≤ maxTargetLength
  parsed : Target.parse draft.target = .ok target
  asterisk : draft.target = "*" → draft.method = .options
  writable : ∀ field ∈ draft.fields, Writable field
  bodiless : draft.body = [] → firstField? "Content-Length" draft.fields = none
  carrier : draft.body ≠ [] → draft.method.hasBody = true
  counted : draft.body ≠ [] →
    firstField? "Content-Length" draft.fields = some (toString draft.body.length)
  allowed : draft.body.length ≤ maxBody
  countable : draft.body.length < sizeLimit
  typed : draft.body ≠ [] →
    ((firstField? "Content-Type" draft.fields).bind MediaType.parse?).isSome = true

section

variable {draft : Draft} {target : Target} {maxBody : Nat}

theorem Draft.Sound.readRequestLine_encode (sound : draft.Sound target maxBody) :
    readRequestLine (Utf8.encode draft.requestLine) = .ok (draft.method, target) := by
  have shape : draft.requestLine.toList =
      draft.method.token.toList ++ ' ' :: (draft.target.toList ++ ' ' :: version.toList) := by
    simp [Draft.requestLine]
  have tokenNoSpace : ' ' ∉ draft.method.token.toList := by cases draft.method <;> decide
  have parts : draft.requestLine.toList.splitOn ' ' =
      [draft.method.token.toList, draft.target.toList, version.toList] := by
    rw [shape, List.splitOn_append_cons_self_of_not_mem tokenNoSpace,
      List.splitOn_append_cons_self_of_not_mem sound.noSpace,
      List.splitOn_eq_singleton (by decide)]
  have allowed : ¬ (draft.target = "*" ∧ draft.method ≠ .options) :=
    fun both => both.2 (sound.asterisk both.1)
  have fits : ¬ draft.target.utf8ByteSize > maxTargetLength := by
    have short := sound.short
    omega
  unfold readRequestLine
  rw [Utf8.decode?_encode]
  simp only [parts]
  unfold readParts
  simp only [String.ofList_toList, Method.ofToken?_token, ne_eq, not_true_eq_false, if_false]
  rw [if_neg allowed, if_neg fits, sound.parsed]
  rfl

theorem Draft.Sound.unbroken_requestLine (sound : draft.Sound target maxBody) :
    Unbroken (Utf8.encode draft.requestLine) := by
  apply unbroken_encode
  intro member
  simp only [Draft.requestLine, String.toList_append, List.mem_append] at member
  rcases member with (((inToken | inSpace) | inTarget) | inSpace) | inVersion
  · have tokenNoReturn : '\r' ∉ draft.method.token.toList := by cases draft.method <;> decide
    exact tokenNoReturn inToken
  · exact absurd inSpace (by decide)
  · exact sound.noReturn inTarget
  · exact absurd inSpace (by decide)
  · exact absurd inVersion (by decide)

theorem Draft.Sound.first?_ofFields (sound : draft.Sound target maxBody) (name : String) :
    (ofFields draft.fields).first? name = firstField? name draft.fields :=
  Headers.first?_ofFields_of_storable (fun field member => (sound.writable field member).stored)
    name

theorem Draft.Sound.contentLength (sound : draft.Sound target maxBody) :
    (ofFields draft.fields).contentLength = draft.body.length := by
  unfold Headers.contentLength
  rw [sound.first?_ofFields]
  by_cases empty : draft.body = []
  · rw [sound.bodiless empty, empty]
    rfl
  · rw [sound.counted empty]
    show (Text.readSize? (toString draft.body.length).toList).getD 0 = _
    rw [Text.readSize?_toString sound.countable]
    rfl

theorem Draft.Sound.declaredType (sound : draft.Sound target maxBody)
    (filled : draft.body ≠ []) :
    Request.declaredType draft.method (ofFields draft.fields) ≠ none := by
  have typed := sound.typed filled
  unfold Request.declaredType
  rw [if_pos (sound.carrier filled), sound.first?_ofFields]
  intro none
  rw [none] at typed
  cases typed

theorem Draft.Sound.readBody (sound : draft.Sound target maxBody) (input junk : Bytes) :
    readBody input draft.method draft.body.length (draft.body ++ junk) = .ok draft.body := by
  unfold Wire.readBody
  rw [if_neg sound.notTrace]
  by_cases empty : draft.body = []
  · rw [if_pos (Or.inl (by rw [empty]; rfl)), empty]
  · have bodied : ¬ (draft.body.length = 0 ∨ draft.method.hasBody = false) := by
      rintro (none | noBody)
      · exact empty (List.length_eq_zero_iff.mp none)
      · rw [sound.carrier empty] at noBody
        cases noBody
    have present : ¬ (draft.body ++ junk).length < draft.body.length := by
      rw [List.length_append]
      omega
    rw [if_neg bodied, if_neg present, List.take_left]

theorem Draft.Sound.readBodied (sound : draft.Sound target maxBody) (input junk : Bytes) :
    readBodied input maxBody draft.method target (ofFields draft.fields) (draft.body ++ junk) =
      .ok (Request.make draft.method target (ofFields draft.fields) draft.body) := by
  have small : ¬ draft.body.length > maxBody := by
    have allowed := sound.allowed
    omega
  have declared : ¬ (Request.declaredType draft.method (ofFields draft.fields) = none ∧
      draft.body.length ≠ 0 ∧ draft.method.hasBody = true) := by
    rintro ⟨untyped, filled, _⟩
    apply sound.declaredType _ untyped
    intro empty
    rw [empty] at filled
    exact filled rfl
  unfold Wire.readBodied
  rw [sound.contentLength, if_neg small, if_neg declared, sound.readBody]
  rfl

/-- **Reading undoes writing.** Whatever stands behind the body, the method, the target, the
fields and the body of a sound request are read back from its written form. -/
theorem readRequest_render (sound : draft.Sound target maxBody) (junk : Bytes) :
    readRequest (draft.render ++ junk) maxBody =
      .ok (Request.make draft.method target (ofFields draft.fields) draft.body) := by
  have shape : draft.render ++ junk = Utf8.encode draft.requestLine ++ crlf ++
      (draft.fields.flatMap renderField ++ crlf ++ (draft.body ++ junk)) := by
    simp only [Draft.render, Draft.head, List.append_assoc]
  have enough := one_le_crlfCount (draft.fields.flatMap renderField) (draft.body ++ junk)
  have fields := readHeaders_render (draft.body ++ junk) draft.fields .empty sound.writable
  rw [shape, readRequest_line maxBody sound.unbroken_requestLine enough
    sound.readRequestLine_encode fields]
  exact sound.readBodied _ junk

end

/-- A draft whose body looks like a head, with a name that is repeated in another casing. -/
def nestedDraft : Draft where
  method := .post
  target := "/a%20b?x=1"
  fields := [("Host", "x"), ("X-Tag", ""), ("x-tag", "a:\tb"), ("content-length", "10"),
    ("Content-Type", "text/plain"), ("Content-Length", "99")]
  body := [13, 10, 13, 10, 65, 58, 32, 98, 13, 10]

theorem readRequest_render_nestedDraft :
    ∃ target, Target.parse nestedDraft.target = .ok target ∧
      readRequest (nestedDraft.render ++ Utf8.encode "\r\nGET / HTTP/1.1") 10 =
        .ok (Request.make .post target (ofFields nestedDraft.fields) nestedDraft.body) := by
  have parsed : ∃ target, Target.parse nestedDraft.target = .ok target :=
    ⟨⟨["a b"], none, "/a%20b", false, [], ⟨[⟨"x", #["1"]⟩]⟩⟩, by decide +kernel⟩
  obtain ⟨target, parsed⟩ := parsed
  have sound : nestedDraft.Sound target 10 :=
    { notTrace := by decide
      noSpace := by decide
      noReturn := by decide
      short := by decide
      parsed := parsed
      asterisk := by decide
      writable := by decide +kernel
      bodiless := fun empty => absurd empty (by decide)
      carrier := by decide
      counted := by decide +kernel
      allowed := by decide +kernel
      countable := by decide +kernel
      typed := by decide +kernel }
  exact ⟨target, parsed, readRequest_render sound _⟩

end HttpService.Wire
