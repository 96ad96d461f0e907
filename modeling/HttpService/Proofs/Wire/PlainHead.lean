import HttpService.Proofs.Wire.AnnouncedLength
import HttpService.Proofs.Wire.HeadEnd

/-!
Contract: heads that hold nothing but field characters and line ends.

Owns:
- octets that fall into field characters and CR LF pairs;
- the lines of such a head, on which the announced and the declared length are the same.

Does not own: what stands behind the head.
-/

namespace HttpService.Wire

/-- Printable ASCII and the horizontal tab. -/
def isFieldOctet (byte : UInt8) : Bool :=
  byte == 9 || (0x20 ≤ byte && byte ≤ 0x7E)

/-- Whether every octet is a field character or a half of a CR LF. -/
def isPlain : Bytes → Bool
  | [] => true
  | [byte] => isFieldOctet byte
  | first :: second :: rest =>
      if first = cr ∧ second = lf then isPlain rest
      else isFieldOctet first && isPlain (second :: rest)

/-- Whether every octet in front of the first empty line, if there is one, is a field
character or a half of a CR LF. -/
def PlainHead (stream : Bytes) : Prop :=
  ∀ index, FirstBlank stream index → isPlain (stream.take index) = true

/-! ## Lines -/

theorem isPlain_unbroken : ∀ {line : Bytes}, Unbroken line → isPlain line = line.all isFieldOctet
  | [], _ => rfl
  | [byte], _ => by simp [isPlain]
  | first :: second :: rest, unbroken => by
      rw [isPlain, if_neg unbroken.not_pair, isPlain_unbroken unbroken.tail]
      rfl

theorem isPlain_line (rest : Bytes) : ∀ {line : Bytes}, Unbroken line →
    isPlain (line ++ crlf ++ rest) = (line.all isFieldOctet && isPlain rest)
  | [], _ => by
      show isPlain (cr :: lf :: rest) = _
      rw [isPlain, if_pos ⟨rfl, rfl⟩]
      rfl
  | byte :: line, unbroken => by
      have apart := not_pair_of_unbroken rest unbroken
      have further := isPlain_line rest unbroken.tail
      show isPlain (byte :: (line ++ crlf ++ rest)) = _
      cases shape : line ++ crlf ++ rest with
      | nil => simp [crlf] at shape
      | cons second tail =>
          rw [isPlain, if_neg (apart second tail shape), ← shape, further, List.all_cons,
            Bool.and_assoc]

theorem isPlain_joined (more : List Bytes) : ∀ first : Bytes, Unbroken first →
    (∀ line ∈ more, Unbroken line) →
    isPlain (joined first more) = (first :: more).all fun line => line.all isFieldOctet := by
  induction more with
  | nil =>
      intro first unbroken _
      rw [joined_nil, isPlain_unbroken unbroken]
      simp
  | cons line more inductionHypothesis =>
      intro first unbroken lines
      rw [joined_cons, isPlain_line _ unbroken, inductionHypothesis line (lines line (by simp))
        fun other member => lines other (List.mem_cons_of_mem line member)]
      rfl

/-! ## Texts -/

theorem isFieldOctet_octet {c : Char} (ascii : c.toNat < 128) :
    isFieldOctet (Utf8.octet c) = isFieldChar c := by
  have code := Utf8.octet_toNat ascii
  have tab : Utf8.octet c = 9 ↔ c = '\t' := by
    constructor
    · intro same
      have same : Utf8.octet c = Utf8.octet '\t' := same
      exact Utf8.octet_inj ascii (by decide) same
    · rintro rfl
      rfl
  unfold isFieldOctet isFieldChar
  rw [Bool.eq_iff_iff]
  simp only [Bool.or_eq_true, beq_iff_eq, Bool.and_eq_true, decide_eq_true_eq, tab,
    UInt8.le_iff_toNat_le, code]
  rfl

theorem not_isFieldOctet_of_le {byte : UInt8} (wide : 128 ≤ byte.toNat) :
    isFieldOctet byte = false := by
  unfold isFieldOctet
  rw [Bool.eq_false_iff]
  intro field
  simp only [Bool.or_eq_true, beq_iff_eq, Bool.and_eq_true, decide_eq_true_eq,
    UInt8.le_iff_toNat_le] at field
  rcases field with rfl | ⟨_, high⟩
  · exact absurd wide (by decide)
  · have high : byte.toNat ≤ 126 := high
    omega

theorem ascii_of_isFieldChar {c : Char} (field : isFieldChar c = true) : c.toNat < 128 := by
  unfold isFieldChar at field
  by_contra wide
  have notTab : c ≠ '\t' := by
    rintro rfl
    exact wide (by decide)
  simp [notTab] at field
  omega

theorem all_isFieldOctet_spell (chars : List Char) :
    (Utf8.spell chars).all isFieldOctet = chars.all isFieldChar := by
  induction chars with
  | nil => rfl
  | cons c rest inductionHypothesis =>
      rw [Utf8.spell_cons, List.all_append, inductionHypothesis, List.all_cons]
      congr 1
      by_cases ascii : c.toNat < 128
      · rw [Utf8.utf8EncodeChar_of_ascii ascii]
        simp [isFieldOctet_octet ascii]
      · have notField : isFieldChar c = false :=
          Bool.eq_false_iff.mpr fun field => ascii (ascii_of_isFieldChar field)
        rw [notField]
        cases octets : String.utf8EncodeChar c with
        | nil => exact absurd octets String.utf8EncodeChar_ne_nil
        | cons byte others =>
            have member : byte ∈ String.utf8EncodeChar c := by simp [octets]
            have wide := Utf8.le_of_mem_utf8EncodeChar ascii member
            simp [not_isFieldOctet_of_le wide]

/-! ## Lengths -/

theorem PlainHead.announcedLength_eq {stream available : Bytes} {index : Nat}
    {start : Method × Target} {headers : Headers} (plain : PlainHead stream)
    (blank : FirstBlank stream index) (first : readRequestLine (nextLine stream).1 = .ok start)
    (read : readHeaders .empty (nextLine stream).2 = .ok (headers, available)) :
    announcedLength (stream.take index) = headers.contentLength ∧
      stream.length = index + 4 + available.length := by
  obtain ⟨line, lines, firstLine, arrived⟩ :=
    exists_arrived (headEnd?_eq_some_iff.mpr blank) first read
  rw [firstLine] at first
  have octets : ∀ line ∈ lines.map Utf8.encode, Unbroken line := by
    intro line member
    obtain ⟨text, inside, rfl⟩ := List.mem_map.mp member
    exact arrived.linesUnbroken text inside
  have fieldOctets := plain index blank
  rw [arrived.head, isPlain_joined _ _ arrived.firstUnbroken octets, ← List.map_cons,
    List.all_map, List.all_eq_true] at fieldOctets
  have storable : ∀ text ∈ line :: lines, ∀ c ∈ text.toList, isFieldChar c = true := by
    intro text member
    have field := fieldOctets text member
    rw [Function.comp_apply, Utf8.encode_eq_spell, all_isFieldOctet_spell] at field
    exact List.all_eq_true.mp field
  refine ⟨?_, arrived.available⟩
  rw [arrived.announcedLength_eq, arrived.contentLength_eq first, arrived.headTexts_eq,
    spelledLength_eq_storedLength storable]

/-! ## Heads of plain lines -/

section

variable {first : String} {more : List String}

/-- Lines of field characters, of which only the first may be empty. -/
structure PlainLines (first : String) (more : List String) : Prop where
  storable : ∀ line ∈ first :: more, ∀ c ∈ line.toList, isFieldChar c = true
  filled : ∀ line ∈ more, line.toList ≠ []

theorem PlainLines.unbroken (lines : PlainLines first more) {line : String}
    (member : line ∈ first :: more) : Unbroken (Utf8.encode line) :=
  unbroken_encode fun inside => absurd (lines.storable line member '\r' inside) (by decide)

/-- A stream that begins with lines, an empty one behind them. -/
def headed (first : String) (more : List String) (rest : Bytes) : Bytes :=
  joined (Utf8.encode first) (more.map Utf8.encode) ++ crlf ++ (crlf ++ rest)

theorem take_headed (rest : Bytes) : (headed first more rest).take
    (joined (Utf8.encode first) (more.map Utf8.encode)).length =
      joined (Utf8.encode first) (more.map Utf8.encode) := by
  rw [headed, List.append_assoc, List.take_left]

theorem PlainLines.firstBlank (lines : PlainLines first more) (rest : Bytes) :
    FirstBlank (headed first more rest)
      (joined (Utf8.encode first) (more.map Utf8.encode)).length := by
  have inside : ∀ line ∈ more.map Utf8.encode, Unbroken line ∧ line ≠ [] := by
    intro line member
    obtain ⟨text, textMember, rfl⟩ := List.mem_map.mp member
    refine ⟨lines.unbroken (List.mem_cons_of_mem first textMember), ?_⟩
    rw [Utf8.encode_eq_spell]
    cases chars : text.toList with
    | nil => exact absurd chars (lines.filled text textMember)
    | cons c chars =>
        intro empty
        have none := List.flatMap_eq_nil_iff.mp empty c (by simp)
        exact String.utf8EncodeChar_ne_nil none
  have empty : crlf.isPrefixOf (crlf ++ rest) = true :=
    List.isPrefixOf_iff_prefix.mpr (List.prefix_append _ _)
  rw [← headEnd?_eq_some_iff, headEnd?, headed,
    headEndFrom_joined _ _ _ 0 (lines.unbroken (by simp)) inside, if_pos empty, Nat.zero_add]

theorem PlainLines.linesOf_joined (lines : PlainLines first more) :
    linesOf (some (joined (Utf8.encode first) (more.map Utf8.encode))) =
      (first :: more).map Utf8.encode := by
  have octets : ∀ line ∈ more.map Utf8.encode, Unbroken line := by
    intro line member
    obtain ⟨text, inside, rfl⟩ := List.mem_map.mp member
    exact lines.unbroken (List.mem_cons_of_mem first inside)
  rw [Wire.linesOf_joined _ _ (lines.unbroken List.mem_cons_self) octets, List.map_cons]

/-- An ASCII character that is no field character is in no plain line. -/
theorem PlainLines.octet_not_mem (lines : PlainLines first more) {c : Char} (ascii : c.toNat < 128)
    (hidden : isFieldChar c = false) {line : String} (member : line ∈ first :: more) :
    Utf8.octet c ∉ Utf8.encode line := by
  rw [Utf8.encode_eq_spell, Utf8.octet_mem_spell ascii]
  intro inside
  rw [lines.storable line member c inside] at hidden
  cases hidden

theorem PlainLines.isPlain (lines : PlainLines first more) :
    isPlain (joined (Utf8.encode first) (more.map Utf8.encode)) = true := by
  rw [isPlain_joined _ _ (lines.unbroken (by simp)), ← List.map_cons, List.all_map,
    List.all_eq_true]
  · intro line member
    rw [Function.comp_apply, Utf8.encode_eq_spell, all_isFieldOctet_spell]
    exact List.all_eq_true.mpr (lines.storable line member)
  · intro octets member
    obtain ⟨text, inside, rfl⟩ := List.mem_map.mp member
    exact lines.unbroken (List.mem_cons_of_mem first inside)

theorem PlainLines.plainHead (lines : PlainLines first more) (rest : Bytes) :
    PlainHead (headed first more rest) := by
  intro index blank
  rw [blank.unique (lines.firstBlank rest), take_headed]
  exact lines.isPlain

theorem length_encode_of_storable {line : String}
    (storable : ∀ c ∈ line.toList, isFieldChar c = true) :
    (Utf8.encode line).length = line.toList.length := by
  rw [Utf8.encode_eq_spell,
    Utf8.spell_of_ascii fun c member => ascii_of_isFieldChar (storable c member), List.length_map]

theorem PlainLines.length_joined (lines : PlainLines first more) :
    (joined (Utf8.encode first) (more.map Utf8.encode)).length =
      more.foldr (fun line length => line.toList.length + 2 + length) first.toList.length := by
  have octets := fun line member => length_encode_of_storable (lines.storable line member)
  rw [← octets first (by simp)]
  replace octets := fun line member => octets line (List.mem_cons_of_mem first member)
  unfold joined
  clear lines
  induction more with
  | nil => simp
  | cons line more inductionHypothesis =>
      have further := inductionHypothesis fun other member =>
        octets other (List.mem_cons_of_mem line member)
      rw [List.length_append] at further
      rw [List.map_cons, List.flatMap_cons, List.length_append, List.length_append,
        List.length_append, octets line (by simp), List.foldr_cons, ← further]
      have pair : crlf.length = 2 := rfl
      omega

end

end HttpService.Wire
