import HttpService.Proofs.Text.Percent

/-!
Contract: what escaped text stands for.

Owns:
- texts in which every `%` starts an escape, said of all places at once, also of their octets, and
  what cutting such a text leaves;
- **that octets are well formed if digits follow every `%` among them**, also where the scan steps
  over it;
- the octets that a text with escapes stands for, escape by escape;
- **that decoding finds these octets**, and that only a text without torn escapes stands for any.

Does not own: whether the octets are text again.
-/

namespace HttpService.Text.Percent

open Hexadecimal (digitValue? octetValue?)

/-! ## Torn escapes -/

/-- Two hexadecimal digits follow every `%`, wherever it stands. -/
def Whole (chars : List Char) : Prop :=
  ∀ front rest, chars = front ++ '%' :: rest → ∃ high low behind,
    rest = high :: low :: behind ∧ (digitValue? high).isSome = true ∧ (digitValue? low).isSome = true

theorem leadsDigits_two_iff {rest : List Char} :
    leadsDigits 2 rest = true ↔ ∃ high low behind, rest = high :: low :: behind ∧
      (digitValue? high).isSome = true ∧ (digitValue? low).isSome = true := by
  match rest with
  | [] => simp [leadsDigits]
  | [_] => simp [leadsDigits]
  | high :: low :: behind =>
      simp only [leadsDigits, Bool.and_true, Bool.and_eq_true]
      constructor
      · intro digits
        exact ⟨high, low, behind, rfl, digits⟩
      · rintro ⟨_, _, _, shape, digits⟩
        cases shape
        exact digits

theorem isWhole_iff {chars : List Char} : isWhole chars = true ↔ Whole chars := by
  constructor
  · intro whole front rest shape
    rw [← leadsDigits_two_iff, ← Bool.not_eq_false]
    intro torn
    rw [isWhole_eq_false_iff.mpr ⟨front, rest, shape, torn⟩] at whole
    cases whole
  · intro whole
    rw [← Bool.not_eq_false, isWhole_eq_false_iff]
    rintro ⟨front, rest, shape, torn⟩
    rw [leadsDigits_two_iff.mpr (whole front rest shape)] at torn
    cases torn

/-! ## Torn escapes among octets -/

/-- The digits `0` to `9`, and the letters `A` to `F` in either case. -/
def IsHexOctet (byte : UInt8) : Prop :=
  (0x30 ≤ byte ∧ byte ≤ 0x39) ∨ (0x41 ≤ byte ∧ byte ≤ 0x46) ∨ (0x61 ≤ byte ∧ byte ≤ 0x66)

instance (byte : UInt8) : Decidable (IsHexOctet byte) :=
  inferInstanceAs (Decidable (_ ∨ _ ∨ _))

theorem ofNat_isSome_octetValue?_iff : ∀ value < 256,
    (octetValue? (UInt8.ofNat value)).isSome = true ↔ IsHexOctet (UInt8.ofNat value) := by
  decide +kernel

theorem isSome_octetValue?_iff (byte : UInt8) :
    (octetValue? byte).isSome = true ↔ IsHexOctet byte := by
  have digit := ofNat_isSome_octetValue?_iff byte.toNat byte.toNat_lt
  rwa [UInt8.ofNat_toNat] at digit

/-- The two octets behind every `%` are hexadecimal digits, at whatever index it stands. -/
def WholeOctets (bytes : Bytes) : Prop :=
  ∀ index, bytes[index]? = some mark → ∃ high low,
    bytes[index + 1]? = some high ∧ bytes[index + 2]? = some low ∧ IsHexOctet high ∧ IsHexOctet low

theorem leadsOctets_two_iff {rest : Bytes} :
    leadsOctets 2 rest = true ↔ ∃ high low,
      rest[0]? = some high ∧ rest[1]? = some low ∧ IsHexOctet high ∧ IsHexOctet low := by
  match rest with
  | [] => simp [leadsOctets]
  | [_] => simp [leadsOctets]
  | high :: low :: _ => simp [leadsOctets, isSome_octetValue?_iff]

theorem wholeOctets_cons {byte : UInt8} {rest : Bytes} :
    WholeOctets (byte :: rest) ↔ (byte = mark → leadsOctets 2 rest = true) ∧ WholeOctets rest := by
  rw [leadsOctets_two_iff]
  constructor
  · intro whole
    refine ⟨?_, fun index => whole (index + 1)⟩
    rintro rfl
    exact whole 0 rfl
  · rintro ⟨here, further⟩ index marked
    cases index with
    | zero => exact here (Option.some.inj marked)
    | succ index => exact further index marked

/-- **Octets are well formed if digits follow every `%`**, although the scan does not come to each
of them. -/
theorem isWellFormed_iff {bytes : Bytes} : isWellFormed bytes = true ↔ WholeOctets bytes := by
  rw [isWellFormed_eq_isWholeOctets]
  induction bytes with
  | nil => simp [isWholeOctets, WholeOctets]
  | cons byte rest inductionHypothesis =>
      rw [isWholeOctets, wholeOctets_cons, ← inductionHypothesis, Bool.and_eq_true, Bool.or_eq_true,
        bne_iff_ne, Classical.or_iff_not_imp_left, Classical.not_not]

/-! ## Cuts -/

section

variable {c : Char}

/-- Digits are looked for within the first piece only. -/
theorem leadsDigits_of_splitOn (stop : digitValue? c = none) {piece : List Char}
    {more : List (List Char)} : ∀ {chars : List Char} (count : Nat),
      chars.splitOn c = piece :: more → leadsDigits count chars = leadsDigits count piece
  | _, 0, _ => rfl
  | [], _ + 1, cut => by
      cases cut
      rfl
  | first :: rest, count + 1, cut => by
      rw [List.splitOn_cons_eq_if_modifyHead] at cut
      by_cases same : first = c
      · subst same
        rw [if_pos (beq_self_eq_true first)] at cut
        cases cut
        simp [leadsDigits, stop]
      · rw [if_neg (by simpa using same)] at cut
        cases pieces : rest.splitOn c with
        | nil => exact absurd pieces (List.splitOn_ne_nil _ _)
        | cons inner further =>
            rw [pieces] at cut
            cases cut
            rw [leadsDigits, leadsDigits, leadsDigits_of_splitOn stop count pieces]

/-- A text that is cut at a character that is no digit and no `%` may be looked at piece by piece. -/
theorem isWhole_splitOn (stop : digitValue? c = none) (unmarked : c ≠ '%') (chars : List Char) :
    isWhole chars = (chars.splitOn c).all isWhole := by
  induction chars with
  | nil => rfl
  | cons first rest inductionHypothesis =>
      rw [List.splitOn_cons_eq_if_modifyHead]
      by_cases same : first = c
      · subst same
        rw [if_pos (beq_self_eq_true first), isWhole_cons_of_ne unmarked, inductionHypothesis]
        rfl
      · rw [if_neg (by simpa using same)]
        cases pieces : rest.splitOn c with
        | nil => exact absurd pieces (List.splitOn_ne_nil _ _)
        | cons piece more =>
            rw [isWhole, inductionHypothesis, pieces, leadsDigits_of_splitOn stop 2 pieces,
              List.modifyHead_cons, List.all_cons, List.all_cons, isWhole, Bool.and_assoc]

theorem isWhole_append_cons (stop : digitValue? c = none) (unmarked : c ≠ '%')
    (front back : List Char) :
    isWhole (front ++ c :: back) = (isWhole front && isWhole back) := by
  rw [isWhole_splitOn stop unmarked, List.splitOn_append_cons_self, List.all_append,
    ← isWhole_splitOn stop unmarked, ← isWhole_splitOn stop unmarked]

end

/-! ## Meaning -/

/-- What a text stands for: each escape for its octet, and every other character for its own
octets. -/
inductive StandsFor : List Char → Bytes → Prop where
  | nil : StandsFor [] []
  | escape {high low : Char} {first second : Nat} {rest : List Char} {bytes : Bytes}
      (highDigit : digitValue? high = some first) (lowDigit : digitValue? low = some second)
      (behind : StandsFor rest bytes) :
      StandsFor ('%' :: high :: low :: rest) (UInt8.ofNat (16 * first + second) :: bytes)
  | char {c : Char} {rest : List Char} {bytes : Bytes} (unmarked : c ≠ '%')
      (behind : StandsFor rest bytes) :
      StandsFor (c :: rest) (String.utf8EncodeChar c ++ bytes)

theorem ascii_of_digitValue? {c : Char} {value : Nat} (digit : digitValue? c = some value) :
    c.toNat < 128 := by
  refine Nat.lt_of_not_le fun wide => ?_
  rw [digitValue?_of_wide wide] at digit
  cases digit

theorem ne_percent_of_digitValue? {c : Char} {value : Nat} (digit : digitValue? c = some value) :
    c ≠ '%' := by
  rintro rfl
  cases digit

theorem decode_spell_escape {high low : Char} {first second : Nat}
    (highDigit : digitValue? high = some first) (lowDigit : digitValue? low = some second)
    (rest : List Char) :
    decode (Utf8.spell ('%' :: high :: low :: rest)) =
      UInt8.ofNat (16 * first + second) :: decode (Utf8.spell rest) := by
  have highAscii := ascii_of_digitValue? highDigit
  have lowAscii := ascii_of_digitValue? lowDigit
  have value : escaped? mark (Utf8.octet high) (Utf8.octet low) =
      some (UInt8.ofNat (16 * first + second)) := by
    unfold escaped? Hexadecimal.readPair?
    rw [if_pos rfl, Utf8.octet_toNat highAscii, Utf8.octet_toNat lowAscii, Char.ofNat_toNat,
      Char.ofNat_toNat, highDigit, lowDigit]
  have octet : Utf8.octet '%' = mark := by decide
  rw [Utf8.spell_cons_of_ascii (by decide), Utf8.spell_cons_of_ascii highAscii,
    Utf8.spell_cons_of_ascii lowAscii, octet, decode, value]

theorem decode_spell_cons {c : Char} (unmarked : c ≠ '%') (rest : List Char) :
    decode (Utf8.spell (c :: rest)) = String.utf8EncodeChar c ++ decode (Utf8.spell rest) := by
  have single : '%' ∉ [c] := by simpa using Ne.symm unmarked
  have alone : Utf8.spell [c] = String.utf8EncodeChar c := List.flatMap_singleton _ c
  have decoded := decode_spell_append single rest
  rwa [alone] at decoded

theorem StandsFor.isWhole {chars : List Char} {bytes : Bytes} (means : StandsFor chars bytes) :
    isWhole chars = true := by
  induction means with
  | nil => rfl
  | escape highDigit lowDigit _ whole =>
      rw [Percent.isWhole, isWhole_cons_of_ne (ne_percent_of_digitValue? highDigit),
        isWhole_cons_of_ne (ne_percent_of_digitValue? lowDigit), whole]
      simp [leadsDigits, highDigit, lowDigit]
  | char unmarked _ whole => rw [isWhole_cons_of_ne unmarked, whole]

theorem StandsFor.decode_eq {chars : List Char} {bytes : Bytes} (means : StandsFor chars bytes) :
    decode (Utf8.spell chars) = bytes := by
  induction means with
  | nil => rfl
  | escape highDigit lowDigit _ decoded => rw [decode_spell_escape highDigit lowDigit, decoded]
  | char unmarked _ decoded => rw [decode_spell_cons unmarked, decoded]

/-- A text without torn escapes stands for what it is decoded to. -/
theorem standsFor_decode {chars : List Char} (whole : isWhole chars = true) :
    StandsFor chars (decode (Utf8.spell chars)) := by
  match chars with
  | [] => exact .nil
  | c :: rest =>
      rw [isWhole, Bool.and_eq_true, Bool.or_eq_true, bne_iff_ne] at whole
      by_cases marked : c = '%'
      · obtain ⟨high, low, behind, rfl, highDigit, lowDigit⟩ :=
          leadsDigits_two_iff.mp (whole.1.resolve_left fun unmarked => unmarked marked)
        obtain ⟨first, highDigit⟩ := Option.isSome_iff_exists.mp highDigit
        obtain ⟨second, lowDigit⟩ := Option.isSome_iff_exists.mp lowDigit
        have further : isWhole behind = true := by
          rw [← isWhole_cons_of_ne (ne_percent_of_digitValue? lowDigit),
            ← isWhole_cons_of_ne (ne_percent_of_digitValue? highDigit)]
          exact whole.2
        rw [marked, decode_spell_escape highDigit lowDigit]
        exact .escape highDigit lowDigit (standsFor_decode further)
      · rw [decode_spell_cons marked]
        exact .char marked (standsFor_decode whole.2)
termination_by chars.length

/-- **Decoding finds what a text stands for**, and a text with a torn escape stands for nothing. -/
theorem standsFor_iff {chars : List Char} {bytes : Bytes} :
    StandsFor chars bytes ↔ isWhole chars = true ∧ decode (Utf8.spell chars) = bytes := by
  constructor
  · intro means
    exact ⟨means.isWhole, means.decode_eq⟩
  · rintro ⟨whole, rfl⟩
    exact standsFor_decode whole

/-- Only the empty text stands for no octets. -/
theorem StandsFor.eq_nil_iff {chars : List Char} {bytes : Bytes} (means : StandsFor chars bytes) :
    bytes = [] ↔ chars = [] := by
  cases means with
  | nil => simp
  | escape => simp
  | char => simp

end HttpService.Text.Percent
