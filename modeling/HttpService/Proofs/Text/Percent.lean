import HttpService.Proofs.Text.Utf8
import HttpService.Text.Percent

/-!
Contract: percent escapes among the characters of a text.

Owns:
- texts in which two hexadecimal digits follow every `%`, and octets in which two such octets do;
- that the scan looks at no octet that is not there, and finds such octets;
- **the octets of a text are well formed if and only if it is such a text**;
- that encoded text is one wherever it stands, and is made of ASCII letters, digits and `%`;
- that decoding undoes encoding, and leaves octets without `%` as they are.

Does not own: where texts are encoded.
-/

namespace HttpService.Text.Percent

open Hexadecimal (digitValue? octetValue?)

/-- Whether that many hexadecimal digits stand in front. -/
def leadsDigits : Nat → List Char → Bool
  | 0, _ => true
  | _ + 1, [] => false
  | count + 1, c :: rest => (digitValue? c).isSome && leadsDigits count rest

/-- Whether two hexadecimal digits follow every `%`. -/
def isWhole : List Char → Bool
  | [] => true
  | c :: rest => (c != '%' || leadsDigits 2 rest) && isWhole rest

theorem isWhole_eq_false_iff {chars : List Char} :
    isWhole chars = false ↔
      ∃ front rest, chars = front ++ '%' :: rest ∧ leadsDigits 2 rest = false := by
  induction chars with
  | nil => simp [isWhole]
  | cons c rest inductionHypothesis =>
      rw [isWhole, Bool.and_eq_false_iff, Bool.or_eq_false_iff, inductionHypothesis]
      constructor
      · rintro (⟨mark, torn⟩ | ⟨front, back, rfl, torn⟩)
        · have mark : c = '%' := by simpa using mark
          exact ⟨[], rest, by rw [mark]; rfl, torn⟩
        · exact ⟨c :: front, back, rfl, torn⟩
      · rintro ⟨front, back, shape, torn⟩
        cases front with
        | nil =>
            cases shape
            exact .inl ⟨rfl, torn⟩
        | cons first front =>
            cases shape
            exact .inr ⟨front, back, rfl, torn⟩

theorem isWhole_of_not_mem {chars : List Char} (absent : '%' ∉ chars) : isWhole chars = true := by
  cases whole : isWhole chars with
  | true => rfl
  | false =>
      obtain ⟨front, rest, rfl, _⟩ := isWhole_eq_false_iff.mp whole
      exact absurd (List.mem_append_right front List.mem_cons_self) absent

/-! ## Characters that are no digits -/

section

variable {c : Char}

theorem leadsDigits_append_of_stop (stop : digitValue? c = none) (tail : List Char) :
    ∀ (front : List Char) (count : Nat),
      leadsDigits count (front ++ c :: tail) = leadsDigits count (front ++ [c])
  | [], 0 => rfl
  | [], count + 1 => by simp [leadsDigits, stop]
  | _ :: _, 0 => rfl
  | first :: front, count + 1 => by
      simp only [List.cons_append, leadsDigits]
      rw [leadsDigits_append_of_stop stop tail front count]

/-- A character that is no digit, and no `%`, parts a text into two that may be looked at one by
one. -/
theorem isWhole_append_of_stop (stop : digitValue? c = none) (unmarked : c ≠ '%')
    (front tail : List Char) :
    isWhole (front ++ c :: tail) = (isWhole (front ++ [c]) && isWhole tail) := by
  induction front with
  | nil =>
      have mark : (c != '%') = true := bne_iff_ne.mpr unmarked
      simp [isWhole, mark]
  | cons first front inductionHypothesis =>
      simp only [List.cons_append, isWhole]
      rw [leadsDigits_append_of_stop stop, inductionHypothesis, Bool.and_assoc]

theorem isWhole_cons_of_ne (unmarked : c ≠ '%') (rest : List Char) :
    isWhole (c :: rest) = isWhole rest := by
  simp [isWhole, unmarked]

end

/-! ## Octets -/

/-- Whether that many octets that are hexadecimal digits stand in front. -/
def leadsOctets : Nat → Bytes → Bool
  | 0, _ => true
  | _ + 1, [] => false
  | count + 1, byte :: rest => (octetValue? byte).isSome && leadsOctets count rest

/-- Whether two octets that are hexadecimal digits follow every `%`. -/
def isWholeOctets : Bytes → Bool
  | [] => true
  | byte :: rest => (byte != mark || leadsOctets 2 rest) && isWholeOctets rest

theorem isWholeOctets_cons_of_ne {byte : UInt8} (unmarked : byte ≠ mark) (rest : Bytes) :
    isWholeOctets (byte :: rest) = isWholeOctets rest := by
  simp [isWholeOctets, unmarked]

theorem ne_mark_of_isSome_octetValue? {byte : UInt8} (digit : (octetValue? byte).isSome = true) :
    byte ≠ mark := by
  rintro rfl
  cases digit

/-- An escape may be stepped over as a whole, as digits are no `%`. -/
theorem isWholeOctets_escape {high low : UInt8} {behind : Bytes}
    (digits : leadsOctets 2 (high :: low :: behind) = true) :
    isWholeOctets (mark :: high :: low :: behind) = isWholeOctets behind := by
  have both := digits
  simp only [leadsOctets, Bool.and_true, Bool.and_eq_true] at both
  rw [isWholeOctets, digits, Bool.or_true, Bool.true_and,
    isWholeOctets_cons_of_ne (ne_mark_of_isSome_octetValue? both.1),
    isWholeOctets_cons_of_ne (ne_mark_of_isSome_octetValue? both.2)]

theorem digitAt?_append (front : Bytes) (byte : UInt8) (rest : Bytes) :
    digitAt? (front ++ byte :: rest).toArray front.length = some (octetValue? byte).isSome := by
  simp [digitAt?]

/-- The octets behind an index are looked at only where they are there. -/
theorem digitsBehind?_append (front : Bytes) (byte : UInt8) (rest : Bytes) :
    digitsBehind? (front ++ byte :: rest).toArray front.length = some (leadsOctets 2 rest) := by
  unfold digitsBehind?
  match rest with
  | [] =>
      rw [if_neg (by simp)]
      rfl
  | [next] =>
      rw [if_neg (by simp)]
      simp [leadsOctets]
  | high :: low :: behind =>
      have first := digitAt?_append (front ++ [byte]) high (low :: behind)
      have second := digitAt?_append (front ++ [byte, high]) low behind
      simp only [List.append_assoc, List.cons_append, List.nil_append, List.length_append,
        List.length_cons, List.length_nil] at first second
      rw [if_pos (by simp), first, second]
      simp only [leadsOctets, Bool.and_true]
      cases (octetValue? high).isSome <;> rfl

/-- The scan looks at no octet that is not there, and finds what looking at every octet would. -/
theorem scanFrom?_append (front rest : Bytes) :
    scanFrom? (front ++ rest).toArray front.length = some (isWholeOctets rest) := by
  match rest with
  | [] =>
      rw [scanFrom?, if_neg (by simp)]
      rfl
  | byte :: rest =>
      have here : (front ++ byte :: rest).toArray[front.length]? = some byte := by simp
      rw [scanFrom?, if_pos (by simp), here]
      by_cases marked : byte = mark
      · subst marked
        simp only [digitsBehind?_append]
        cases digits : leadsOctets 2 rest with
        | false => simp [isWholeOctets, digits]
        | true =>
            obtain _ | ⟨high, _ | ⟨low, behind⟩⟩ := rest
            · simp [leadsOctets] at digits
            · simp [leadsOctets] at digits
            · have further := scanFrom?_append (front ++ [mark, high, low]) behind
              simpa [isWholeOctets_escape digits] using further
      · have further := scanFrom?_append (front ++ [byte]) rest
        simp only [if_neg marked, isWholeOctets_cons_of_ne marked]
        simpa using further
termination_by rest.length

theorem isWellFormed_eq_isWholeOctets (bytes : Bytes) :
    isWellFormed bytes = isWholeOctets bytes := by
  have scanned : scanFrom? bytes.toArray 0 = some (isWholeOctets bytes) := scanFrom?_append [] bytes
  unfold isWellFormed
  rw [scanned]
  cases isWholeOctets bytes <;> rfl

/-! ## Octets of a text -/

theorem digitValue?_of_wide {c : Char} (wide : 128 ≤ c.toNat) : digitValue? c = none := by
  have beyond : ∀ last : Char, last.toNat < 128 → ¬ c ≤ last := by
    intro last small below
    have : c.toNat ≤ last.toNat := below
    omega
  unfold digitValue?
  rw [if_neg fun both => beyond '9' (by decide) both.2,
    if_neg fun both => beyond 'f' (by decide) both.2,
    if_neg fun both => beyond 'F' (by decide) both.2]

theorem octetValue?_octet {c : Char} (ascii : c.toNat < 128) :
    octetValue? (Utf8.octet c) = digitValue? c := by
  unfold octetValue?
  rw [Utf8.octet_toNat ascii, Char.ofNat_toNat]

theorem octetValue?_of_wide {byte : UInt8} (wide : 128 ≤ byte.toNat) : octetValue? byte = none := by
  refine digitValue?_of_wide ?_
  have small := byte.toNat_lt
  have valid : byte.toNat.isValidChar := .inl (by omega)
  unfold Char.ofNat
  rw [dif_pos valid]
  exact wide

theorem leadsOctets_spell : ∀ (count : Nat) (chars : List Char),
    leadsOctets count (Utf8.spell chars) = leadsDigits count chars
  | 0, _ => rfl
  | _ + 1, [] => rfl
  | count + 1, c :: rest => by
      rw [leadsDigits]
      by_cases ascii : c.toNat < 128
      · rw [Utf8.spell_cons_of_ascii ascii, leadsOctets, octetValue?_octet ascii,
          leadsOctets_spell count rest]
      · rw [Utf8.spell_cons, digitValue?_of_wide (Nat.le_of_not_lt ascii)]
        cases octets : String.utf8EncodeChar c with
        | nil => exact absurd octets (by simp)
        | cons byte more =>
            have wide : 128 ≤ byte.toNat :=
              Utf8.le_of_mem_utf8EncodeChar ascii (octets ▸ List.mem_cons_self)
            rw [List.cons_append, leadsOctets, octetValue?_of_wide wide]
            rfl

theorem isWholeOctets_append_of_unmarked (rest : Bytes) : ∀ {bytes : Bytes}, mark ∉ bytes →
    isWholeOctets (bytes ++ rest) = isWholeOctets rest
  | [], _ => rfl
  | byte :: bytes, absent => by
      rw [List.mem_cons, not_or] at absent
      rw [List.cons_append, isWholeOctets_cons_of_ne (Ne.symm absent.1),
        isWholeOctets_append_of_unmarked rest absent.2]

theorem isWholeOctets_spell (chars : List Char) :
    isWholeOctets (Utf8.spell chars) = isWhole chars := by
  induction chars with
  | nil => rfl
  | cons c rest inductionHypothesis =>
      rw [isWhole]
      by_cases marked : c = '%'
      · subst marked
        have octet : Utf8.octet '%' = mark := by decide
        rw [Utf8.spell_cons_of_ascii (by decide), octet, isWholeOctets, leadsOctets_spell,
          inductionHypothesis]
        rfl
      · have absent : mark ∉ String.utf8EncodeChar c := by
          intro member
          have octet : mark = Utf8.octet '%' := by decide
          rw [octet] at member
          exact marked (Utf8.eq_of_octet_mem (by decide) member).symm
        rw [Utf8.spell_cons, isWholeOctets_append_of_unmarked _ absent, inductionHypothesis]
        simp [marked]

/-- **The octets of a text are well formed if two digits follow every `%` in it**, and not
otherwise. -/
theorem isWellFormed_spell (chars : List Char) :
    isWellFormed (Utf8.spell chars) = isWhole chars := by
  rw [isWellFormed_eq_isWholeOctets, isWholeOctets_spell]

theorem isWellFormed_encode (text : String) :
    isWellFormed (Utf8.encode text) = isWhole text.toList := by
  rw [Utf8.encode_eq_spell, isWellFormed_spell]

/-! ## Encoded text -/

section

variable {c : Char}

theorem ascii_of_isAlphanum (plain : c.isAlphanum = true) : c.toNat < 128 := by
  unfold Char.isAlphanum Char.isAlpha Char.isUpper Char.isLower Char.isDigit at plain
  simp only [Bool.or_eq_true, Bool.and_eq_true, decide_eq_true_eq, ge_iff_le,
    UInt32.le_iff_toNat_le] at plain
  show c.val.toNat < 128
  have values : ('Z'.val.toNat = 90 ∧ 'z'.val.toNat = 122) ∧ '9'.val.toNat = 57 := by decide
  omega

theorem ne_percent_of_isAlphanum (plain : c.isAlphanum = true) : c ≠ '%' := by
  rintro rfl
  cases plain

end

theorem hexChar_spec : ∀ digit < 16,
    digitValue? (hexChar digit) = some digit ∧ (hexChar digit).isAlphanum = true := by
  decide

theorem ofNat_spec : ∀ value < 256, isAlphanumeric (UInt8.ofNat value) = true →
    Utf8.octet (Char.ofNat value) = UInt8.ofNat value ∧ (Char.ofNat value).isAlphanum = true := by
  decide +kernel

/-- An octet that stays as it is stands for an ASCII letter or digit. -/
theorem ofNat_of_isAlphanumeric {byte : UInt8} (plain : isAlphanumeric byte = true) :
    Utf8.octet (Char.ofNat byte.toNat) = byte ∧ (Char.ofNat byte.toNat).isAlphanum = true := by
  have spec := ofNat_spec byte.toNat byte.toNat_lt
  rw [UInt8.ofNat_toNat] at spec
  exact spec plain

theorem mem_encodeByte {byte : UInt8} {c : Char} (member : c ∈ encodeByte byte) :
    c = '%' ∨ c.isAlphanum = true := by
  have small := byte.toNat_lt
  unfold encodeByte at member
  split at member
  · rename_i plain
    rw [List.mem_singleton.mp member]
    exact .inr (ofNat_of_isAlphanumeric plain).2
  · simp only [List.mem_cons, List.not_mem_nil, or_false] at member
    rcases member with mark | high | low
    · exact .inl mark
    · exact .inr (high ▸ (hexChar_spec _ (by omega)).2)
    · exact .inr (low ▸ (hexChar_spec _ (by omega)).2)

/-- Encoded text is made of ASCII letters and digits, and of `%`. -/
theorem mem_encode {text : String} {c : Char} (member : c ∈ (encode text).toList) :
    c = '%' ∨ c.isAlphanum = true := by
  unfold encode at member
  rw [String.toList_ofList] at member
  obtain ⟨byte, _, inside⟩ := List.mem_flatMap.mp member
  exact mem_encodeByte inside

theorem not_mem_encode {c : Char} (unmarked : c ≠ '%') (special : c.isAlphanum = false)
    (text : String) : c ∉ (encode text).toList := by
  intro member
  rcases mem_encode member with mark | plain
  · exact unmarked mark
  · rw [plain] at special
    cases special

theorem isWhole_encodeByte (byte : UInt8) (tail : List Char) :
    isWhole (encodeByte byte ++ tail) = isWhole tail := by
  have small := byte.toNat_lt
  unfold encodeByte
  split
  · rename_i plain
    exact isWhole_cons_of_ne (ne_percent_of_isAlphanum (ofNat_of_isAlphanumeric plain).2) tail
  · obtain ⟨high, highPlain⟩ := hexChar_spec (byte.toNat / 16) (by omega)
    obtain ⟨low, lowPlain⟩ := hexChar_spec (byte.toNat % 16) (by omega)
    show isWhole ('%' :: hexChar _ :: hexChar _ :: tail) = _
    rw [isWhole, isWhole_cons_of_ne (ne_percent_of_isAlphanum highPlain),
      isWhole_cons_of_ne (ne_percent_of_isAlphanum lowPlain)]
    simp [leadsDigits, high, low]

/-- Encoded text is whole in itself: it neither needs nor gives a digit. -/
theorem isWhole_encode (text : String) (tail : List Char) :
    isWhole ((encode text).toList ++ tail) = isWhole tail := by
  unfold encode
  rw [String.toList_ofList]
  induction Utf8.encode text with
  | nil => rfl
  | cons byte rest inductionHypothesis =>
      rw [List.flatMap_cons, List.append_assoc, isWhole_encodeByte, inductionHypothesis]

/-! ## Decoding -/

theorem decode_cons_of_ne {byte : UInt8} (unmarked : byte ≠ mark) (rest : Bytes) :
    decode (byte :: rest) = byte :: decode rest := by
  match rest with
  | [] => rfl
  | [_] => rfl
  | high :: low :: rest =>
      have unescaped : escaped? byte high low = none := if_neg unmarked
      rw [decode, unescaped]

theorem decode_append_of_unmarked (rest : Bytes) : ∀ {bytes : Bytes}, mark ∉ bytes →
    decode (bytes ++ rest) = bytes ++ decode rest
  | [], _ => rfl
  | byte :: bytes, absent => by
      rw [List.mem_cons, not_or] at absent
      rw [List.cons_append, decode_cons_of_ne (Ne.symm absent.1),
        decode_append_of_unmarked rest absent.2, List.cons_append]

theorem decode_spell_append {front : List Char} (unmarked : '%' ∉ front) (back : List Char) :
    decode (Utf8.spell (front ++ back)) = Utf8.spell front ++ decode (Utf8.spell back) := by
  have octet : mark = Utf8.octet '%' := by decide
  rw [Utf8.spell_append, decode_append_of_unmarked]
  rw [octet, Utf8.octet_mem_spell (by decide)]
  exact unmarked

theorem octetValue?_hexChar {digit : Nat} (small : digit < 16) :
    octetValue? (Utf8.octet (hexChar digit)) = some digit := by
  obtain ⟨value, plain⟩ := hexChar_spec digit small
  rw [octetValue?_octet (ascii_of_isAlphanum plain), value]

theorem decode_encodeByte (byte : UInt8) (rest : Bytes) :
    decode (Utf8.spell (encodeByte byte) ++ rest) = byte :: decode rest := by
  have small := byte.toNat_lt
  unfold encodeByte
  split
  · rename_i plain
    obtain ⟨octet, letter⟩ := ofNat_of_isAlphanumeric plain
    have unmarked : byte ≠ mark := by
      rintro rfl
      cases plain
    rw [Utf8.spell_of_ascii (by simpa using ascii_of_isAlphanum letter)]
    show decode (Utf8.octet (Char.ofNat byte.toNat) :: rest) = _
    rw [octet, decode_cons_of_ne unmarked]
  · have high := octetValue?_hexChar (by omega : byte.toNat / 16 < 16)
    have low := octetValue?_hexChar (by omega : byte.toNat % 16 < 16)
    have value : escaped? mark (Utf8.octet (hexChar (byte.toNat / 16)))
        (Utf8.octet (hexChar (byte.toNat % 16))) = some byte := by
      unfold octetValue? at high low
      unfold escaped? Hexadecimal.readPair?
      rw [if_pos rfl, high, low]
      simp only [Nat.div_add_mod, UInt8.ofNat_toNat]
    rw [Utf8.spell_of_ascii (by
      have highAscii := ascii_of_isAlphanum (hexChar_spec (byte.toNat / 16) (by omega)).2
      have lowAscii := ascii_of_isAlphanum (hexChar_spec (byte.toNat % 16) (by omega)).2
      simpa using ⟨highAscii, lowAscii⟩)]
    show decode (mark :: Utf8.octet (hexChar (byte.toNat / 16)) ::
      Utf8.octet (hexChar (byte.toNat % 16)) :: rest) = _
    rw [decode, value]

/-- **Decoding undoes encoding**, whatever stands behind. -/
theorem decode_spell_encode (text : String) (rest : Bytes) :
    decode (Utf8.spell (encode text).toList ++ rest) = Utf8.encode text ++ decode rest := by
  unfold encode
  rw [String.toList_ofList]
  induction Utf8.encode text with
  | nil => rfl
  | cons byte bytes inductionHypothesis =>
      rw [List.flatMap_cons, Utf8.spell_append, List.append_assoc, decode_encodeByte,
        inductionHypothesis, List.cons_append]

theorem toList_encode_ne_nil {text : String} (filled : text ≠ "") : (encode text).toList ≠ [] := by
  intro vanished
  have decoded := decode_spell_encode text []
  rw [vanished, List.append_nil, decode, List.append_nil, Utf8.encode_eq_spell] at decoded
  exact filled (String.toList_eq_nil_iff.mp (Utf8.spell_eq_nil_iff.mp decoded.symm))

end HttpService.Text.Percent
