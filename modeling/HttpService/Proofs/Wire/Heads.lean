import HttpService.Proofs.Headers.Fields
import HttpService.Proofs.Text.Utf8
import HttpService.Proofs.Wire.HeaderLines
import HttpService.Wire.Framing

/-!
Contract: a head as its lines.

Owns:
- lines with CR LF between them, and where such a head ends in front of an empty line;
- the lines that the header reader has read, and the fields it took from them;
- **the head of an accepted request** as its request line and its header lines.

Does not own: the body length that a head announces.
-/

namespace HttpService.Wire

open Headers (ofFields)

/-- Lines with CR LF between them. -/
def joined (first : Bytes) (more : List Bytes) : Bytes :=
  first ++ more.flatMap (crlf ++ ·)

theorem joined_nil (first : Bytes) : joined first [] = first :=
  List.append_nil first

theorem joined_cons (first line : Bytes) (more : List Bytes) :
    joined first (line :: more) = first ++ crlf ++ joined line more := by
  simp only [joined, List.flatMap_cons, List.append_assoc]

theorem unbroken_encode {text : String} (absent : '\r' ∉ text.toList) :
    Unbroken (Utf8.encode text) := by
  apply unbroken_of_not_mem
  rw [Utf8.encode_eq_spell]
  exact fun member => absent ((Utf8.octet_mem_spell (c := '\r') (by decide)).mp member)

/-! ## The end of a head -/

theorem headEndFrom_line (rest : Bytes) : ∀ (line : Bytes) (index : Nat), Unbroken line →
    headEndFrom index (line ++ crlf ++ rest) =
      if crlf.isPrefixOf rest then some (index + line.length)
      else headEndFrom (index + line.length + 2) rest
  | [], index, _ => by
      show headEndFrom index (cr :: lf :: rest) = _
      have ahead : [lf, cr, lf].isPrefixOf (lf :: rest) = crlf.isPrefixOf rest := by
        simp [List.isPrefixOf, crlf]
      rw [headEndFrom, ahead]
      by_cases ends : crlf.isPrefixOf rest = true
      · rw [if_pos ⟨rfl, ends⟩, if_pos ends]
        rfl
      · rw [if_neg fun both => ends both.2, if_neg ends, headEndFrom, if_neg]
        · rfl
        · rintro ⟨equal, _⟩
          exact absurd equal (by decide)
  | byte :: line, index, unbroken => by
      have apart := not_pair_of_unbroken rest unbroken
      have further := headEndFrom_line rest line (index + 1) unbroken.tail
      show headEndFrom index (byte :: (line ++ crlf ++ rest)) = _
      rw [headEndFrom, if_neg, further, List.length_cons]
      · simp only [Nat.add_assoc, Nat.add_comm 1]
      · rintro ⟨isCr, ahead⟩
        obtain ⟨tail, shape⟩ := List.isPrefixOf_iff_prefix.mp ahead
        exact apart lf (cr :: lf :: tail) shape.symm ⟨isCr, rfl⟩

theorem not_crlf_isPrefixOf {line : Bytes} (rest : Bytes) (unbroken : Unbroken line)
    (filled : line ≠ []) : crlf.isPrefixOf (line ++ crlf ++ rest) = false := by
  rw [Bool.eq_false_iff]
  intro ahead
  obtain ⟨tail, shape⟩ := List.isPrefixOf_iff_prefix.mp ahead
  cases line with
  | nil => exact filled rfl
  | cons byte line =>
      have parts := List.cons.inj shape
      exact not_pair_of_unbroken rest unbroken lf tail parts.2.symm ⟨parts.1.symm, rfl⟩

/-- Behind a first line and filled lines the head ends iff an empty line follows. -/
theorem headEndFrom_joined (behind : Bytes) (more : List Bytes) : ∀ (first : Bytes) (index : Nat),
    Unbroken first → (∀ line ∈ more, Unbroken line ∧ line ≠ []) →
    headEndFrom index (joined first more ++ crlf ++ behind) =
      if crlf.isPrefixOf behind then some (index + (joined first more).length)
      else headEndFrom (index + (joined first more).length + 2) behind := by
  induction more with
  | nil =>
      intro first index unbroken _
      rw [joined_nil]
      exact headEndFrom_line behind first index unbroken
  | cons line more inductionHypothesis =>
      intro first index unbroken lines
      obtain ⟨lineUnbroken, filled⟩ := lines line (by simp)
      have shape : joined first (line :: more) ++ crlf ++ behind =
          first ++ crlf ++ (joined line more ++ crlf ++ behind) := by
        simp only [joined_cons, List.append_assoc]
      -- The next line is filled, so its first octets are no empty line.
      have opened : ∃ rest, joined line more ++ crlf ++ behind = line ++ crlf ++ rest := by
        cases more with
        | nil => exact ⟨behind, by rw [joined_nil]⟩
        | cons next more =>
            exact ⟨joined next more ++ crlf ++ behind, by simp only [joined_cons, List.append_assoc]⟩
      have stays : crlf.isPrefixOf (joined line more ++ crlf ++ behind) = false := by
        obtain ⟨rest, opened⟩ := opened
        rw [opened]
        exact not_crlf_isPrefixOf rest lineUnbroken filled
      have length : (joined first (line :: more)).length =
          first.length + 2 + (joined line more).length := by
        simp [joined_cons, crlf]
        omega
      rw [shape, headEndFrom_line _ first index unbroken, stays,
        if_neg (by decide), inductionHypothesis line _ lineUnbroken
          (fun other member => lines other (List.mem_cons_of_mem line member)), length]
      simp only [Nat.add_assoc]

/-! ## The lines of a head -/

theorem linesOf_joined (more : List Bytes) : ∀ first : Bytes, Unbroken first →
    (∀ line ∈ more, Unbroken line) → linesOf (some (joined first more)) = first :: more := by
  induction more with
  | nil =>
      intro first unbroken _
      rw [joined_nil, linesOf_unbroken unbroken]
  | cons line more inductionHypothesis =>
      intro first unbroken lines
      rw [joined_cons, linesOf_line _ unbroken,
        inductionHypothesis line (lines line (by simp))
          fun other member => lines other (List.mem_cons_of_mem line member)]

/-- The lines of a head as texts, the request line in front. -/
def headTexts (head : Bytes) : List String :=
  (linesOf (some head)).filterMap Utf8.decode?

theorem headTexts_joined {first : String} {more : List String}
    (unbroken : Unbroken (Utf8.encode first))
    (lines : ∀ line ∈ more, Unbroken (Utf8.encode line)) :
    headTexts (joined (Utf8.encode first) (more.map Utf8.encode)) = first :: more := by
  have octets : ∀ line ∈ more.map Utf8.encode, Unbroken line := by
    intro line member
    obtain ⟨text, inside, rfl⟩ := List.mem_map.mp member
    exact lines text inside
  have decoded : Utf8.decode? ∘ Utf8.encode = some := funext Utf8.decode?_encode
  unfold headTexts
  rw [linesOf_joined _ _ unbroken octets, ← List.map_cons (f := Utf8.encode),
    List.filterMap_map, decoded, List.filterMap_some]

/-! ## What the header reader has read -/

/-- The field of a header line. -/
def IsField (line : String) (field : String × String) : Prop :=
  readField (Utf8.encode line) = .ok field

theorem exists_text_of_readField {line : Bytes} {field : String × String}
    (read : readField line = .ok field) : ∃ text, line = Utf8.encode text := by
  cases decoded : Utf8.decode? line with
  | none =>
      unfold readField at read
      rw [decoded] at read
      cases read
  | some text => exact ⟨text, (Utf8.encode_of_decode? decoded).symm⟩

/-- The header reader reads filled lines one after the other, each as a field, until it comes
to an empty line or to the end. -/
theorem lines_of_readHeaders (bytes : Bytes) {headers result : Headers} {available : Bytes}
    (read : readHeaders headers (some bytes) = .ok (result, available)) :
    ∃ lines fields behind, List.Forall₂ IsField lines fields ∧
      (∀ line ∈ lines, Unbroken (Utf8.encode line) ∧ Utf8.encode line ≠ []) ∧
      result = fields.foldl (fun held field => held.append field.1 field.2) headers ∧
      crlf ++ bytes = (lines.map Utf8.encode).flatMap (crlf ++ ·) ++ crlf ++ behind ∧
      (behind = crlf ++ available ∨ behind = [] ∧ available = []) := by
  induction bytes using line_induction generalizing headers with
  | last bytes unbroken =>
      by_cases filled : bytes = []
      · subst filled
        rw [readHeaders_nil] at read
        cases read
        exact ⟨[], [], [], .nil, by simp, rfl, by simp, Or.inr ⟨rfl, rfl⟩⟩
      · obtain ⟨error, failed⟩ := readHeaders_unended headers unbroken filled
        rw [failed] at read
        cases read
  | line line rest unbroken inductionHypothesis =>
      by_cases filled : line = []
      · subst filled
        rw [List.nil_append, readHeaders_blank] at read
        cases read
        exact ⟨[], [], crlf ++ available, .nil, by simp, rfl, by simp, Or.inl rfl⟩
      · rw [readHeaders_line headers rest unbroken filled] at read
        cases field : readField line with
        | error error =>
            rw [field] at read
            cases read
        | ok named =>
            rw [field] at read
            obtain ⟨lines, fields, behind, alike, each, held, shape, ends⟩ :=
              inductionHypothesis read
            obtain ⟨text, rfl⟩ := exists_text_of_readField field
            refine ⟨text :: lines, named :: fields, behind, .cons field alike, ?_, held, ?_, ends⟩
            · intro other member
              rcases List.mem_cons.mp member with rfl | further
              · exact ⟨unbroken, filled⟩
              · exact each other further
            · rw [List.map_cons, List.flatMap_cons, List.append_assoc, shape]
              simp only [List.append_assoc]

/-- An input whose request line and header lines are read, taken apart: these lines, the
fields, and what stands behind the CR LF of the last line. -/
structure Parted (input : Bytes) (first : String) (lines : List String) (headers : Headers)
    (behind : Bytes) : Prop where
  firstLine : (nextLine input).1 = Utf8.encode first
  firstUnbroken : Unbroken (Utf8.encode first)
  linesFilled : ∀ line ∈ lines, Unbroken (Utf8.encode line) ∧ Utf8.encode line ≠ []
  fields : ∃ fields, List.Forall₂ IsField lines fields ∧ headers = ofFields fields
  whole : input = joined (Utf8.encode first) (lines.map Utf8.encode) ++ crlf ++ behind

/-- Behind the lines of an accepted head stands the empty line, or nothing at all. -/
theorem exists_parted {input available : Bytes} {start : Method × Target} {headers : Headers}
    (first : readRequestLine (nextLine input).1 = .ok start)
    (read : readHeaders .empty (nextLine input).2 = .ok (headers, available)) :
    ∃ line lines behind, Parted input line lines headers behind ∧
      (behind = crlf ++ available ∨ behind = [] ∧ available = []) := by
  rcases unbroken_or_line input with unbroken | ⟨line, rest, rfl, unbroken⟩
  · rw [nextLine_unbroken unbroken, readHeaders] at read
    cases read
  · rw [nextLine_line rest unbroken] at first read
    have decoded : ∃ text, line = Utf8.encode text := by
      cases spelled : Utf8.decode? line with
      | none =>
          simp only [readRequestLine, spelled] at first
          cases first
      | some text => exact ⟨text, (Utf8.encode_of_decode? spelled).symm⟩
    obtain ⟨text, rfl⟩ := decoded
    obtain ⟨lines, fields, behind, alike, each, held, shape, ends⟩ :=
      lines_of_readHeaders rest read
    have whole : Utf8.encode text ++ crlf ++ rest =
        joined (Utf8.encode text) (lines.map Utf8.encode) ++ crlf ++ behind := by
      rw [List.append_assoc, shape]
      simp only [joined, List.append_assoc]
    refine ⟨text, lines, behind, ⟨?_, unbroken, each, ⟨fields, alike, held⟩, whole⟩, ends⟩
    rw [nextLine_line rest unbroken]

theorem Parted.headEnd?_eq {input behind : Bytes} {first : String} {lines : List String}
    {headers : Headers} (parted : Parted input first lines headers behind) :
    headEnd? input =
      if crlf.isPrefixOf behind then
        some (joined (Utf8.encode first) (lines.map Utf8.encode)).length
      else
        headEndFrom ((joined (Utf8.encode first) (lines.map Utf8.encode)).length + 2) behind := by
  have filled : ∀ line ∈ lines.map Utf8.encode, Unbroken line ∧ line ≠ [] := by
    intro line member
    obtain ⟨text, inside, rfl⟩ := List.mem_map.mp member
    exact parted.linesFilled text inside
  have position := headEndFrom_joined behind (lines.map Utf8.encode) _ 0 parted.firstUnbroken filled
  rw [← parted.whole, Nat.zero_add] at position
  exact position

/-- A request whose head has arrived, taken apart: its request line, its header lines with
their fields, and what follows the empty line. -/
structure Arrived (buffer : Bytes) (length : Nat) (first : String) (lines : List String)
    (headers : Headers) (available : Bytes) : Prop where
  firstUnbroken : Unbroken (Utf8.encode first)
  linesUnbroken : ∀ line ∈ lines, Unbroken (Utf8.encode line)
  fields : ∃ fields, List.Forall₂ IsField lines fields ∧ headers = ofFields fields
  head : buffer.take length = joined (Utf8.encode first) (lines.map Utf8.encode)
  rest : buffer.drop (length + 4) = available
  available : buffer.length = length + 4 + available.length

theorem Arrived.headTexts_eq {buffer available : Bytes} {length : Nat} {first : String}
    {lines : List String} {headers : Headers}
    (arrived : Arrived buffer length first lines headers available) :
    headTexts (buffer.take length) = first :: lines := by
  rw [arrived.head]
  exact headTexts_joined arrived.firstUnbroken arrived.linesUnbroken

theorem Parted.arrived {input available : Bytes} {first : String} {lines : List String}
    {headers : Headers} (parted : Parted input first lines headers (crlf ++ available)) :
    headEnd? input = some (joined (Utf8.encode first) (lines.map Utf8.encode)).length ∧
      Arrived input (joined (Utf8.encode first) (lines.map Utf8.encode)).length first lines
        headers available := by
  have position := parted.headEnd?_eq
  rw [if_pos (List.isPrefixOf_iff_prefix.mpr (List.prefix_append _ _))] at position
  refine ⟨position, parted.firstUnbroken, fun line member => (parted.linesFilled line member).1,
    parted.fields, ?_, ?_, ?_⟩
  · rw [parted.whole, List.append_assoc, List.take_left]
  · rw [parted.whole, List.append_assoc, List.drop_length_add_append]
    rfl
  · rw [parted.whole]
    simp [crlf]
    omega

/-- **The head of an accepted request** is its request line and the lines of its fields. -/
theorem exists_arrived {buffer available : Bytes} {length : Nat} {start : Method × Target}
    {headers : Headers} (ended : headEnd? buffer = some length)
    (first : readRequestLine (nextLine buffer).1 = .ok start)
    (read : readHeaders .empty (nextLine buffer).2 = .ok (headers, available)) :
    ∃ line lines, (nextLine buffer).1 = Utf8.encode line ∧
      Arrived buffer length line lines headers available := by
  obtain ⟨line, lines, behind, parted, ends⟩ := exists_parted first read
  rcases ends with rfl | ⟨rfl, _⟩
  · obtain ⟨position, arrived⟩ := parted.arrived
    rw [ended] at position
    cases position
    exact ⟨line, lines, parted.firstLine, arrived⟩
  · have position := parted.headEnd?_eq
    rw [ended, if_neg (by decide)] at position
    cases position

end HttpService.Wire
