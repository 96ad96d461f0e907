import HttpService.Proofs.Text.Trim
import HttpService.Text.Utf8

/-!
Contract: ASCII characters among the octets of a text.

Owns:
- the octets of a text character by character;
- that an octet below 128 stands for its own character and for nothing else;
- cutting the octets of a text at such a character.

Does not own: ill-formed octets.
-/

namespace HttpService.Utf8

/-- The octets that spell some characters. -/
def spell (chars : List Char) : Bytes :=
  chars.flatMap String.utf8EncodeChar

/-- The octet of an ASCII character. -/
def octet (c : Char) : UInt8 :=
  UInt8.ofNat c.toNat

theorem encode_eq_spell (text : String) : encode text = spell text.toList := by
  have octets : text.toByteArray = text.toList.utf8Encode := String.utf8Encode_toList.symm
  unfold encode spell
  rw [String.toUTF8_eq_toByteArray, octets]
  exact List.toList_data_toByteArray

theorem decode?_spell (chars : List Char) : decode? (spell chars) = some (String.ofList chars) := by
  have encoded := encode_eq_spell (String.ofList chars)
  rw [String.toList_ofList] at encoded
  rw [← encoded, decode?_encode]

theorem spell_cons (c : Char) (rest : List Char) :
    spell (c :: rest) = String.utf8EncodeChar c ++ spell rest :=
  List.flatMap_cons

theorem spell_append (front back : List Char) : spell (front ++ back) = spell front ++ spell back :=
  List.flatMap_append

/-! ## ASCII characters -/

theorem utf8EncodeChar_of_ascii {c : Char} (ascii : c.toNat < 128) :
    String.utf8EncodeChar c = [octet c] := by
  unfold String.utf8EncodeChar octet
  have small : c.val.toNat ≤ 127 := Nat.le_of_lt_succ ascii
  rw [if_pos small]
  rfl

theorem le_of_mem_utf8EncodeChar {c : Char} (wide : ¬ c.toNat < 128) {byte : UInt8}
    (member : byte ∈ String.utf8EncodeChar c) : 128 ≤ byte.toNat := by
  have large : ¬ c.val.toNat ≤ 127 := fun small => wide (Nat.lt_succ_of_le small)
  unfold String.utf8EncodeChar at member
  rw [if_neg large] at member
  split at member
  · simp only [List.mem_cons, List.not_mem_nil, or_false] at member
    rcases member with rfl | rfl <;> simp <;> omega
  · split at member
    · simp only [List.mem_cons, List.not_mem_nil, or_false] at member
      rcases member with rfl | rfl | rfl <;> simp <;> omega
    · simp only [List.mem_cons, List.not_mem_nil, or_false] at member
      rcases member with rfl | rfl | rfl | rfl <;> simp <;> omega

theorem octet_toNat {c : Char} (ascii : c.toNat < 128) : (octet c).toNat = c.toNat := by
  unfold octet
  rw [UInt8.toNat_ofNat']
  omega

theorem octet_inj {first second : Char} (firstAscii : first.toNat < 128)
    (secondAscii : second.toNat < 128) (equal : octet first = octet second) : first = second := by
  apply Char.ext
  apply UInt32.toNat_inj.mp
  show first.toNat = second.toNat
  rw [← octet_toNat firstAscii, ← octet_toNat secondAscii, equal]

/-- The octet of an ASCII character is in the spelling of no other character. -/
theorem eq_of_octet_mem {c other : Char} (ascii : c.toNat < 128)
    (member : octet c ∈ String.utf8EncodeChar other) : c = other := by
  by_cases otherAscii : other.toNat < 128
  · rw [utf8EncodeChar_of_ascii otherAscii, List.mem_singleton] at member
    exact octet_inj ascii otherAscii member
  · have large := le_of_mem_utf8EncodeChar otherAscii member
    rw [octet_toNat ascii] at large
    omega

theorem octet_mem_spell {c : Char} (ascii : c.toNat < 128) {chars : List Char} :
    octet c ∈ spell chars ↔ c ∈ chars := by
  unfold spell
  rw [List.mem_flatMap]
  constructor
  · rintro ⟨other, otherMember, member⟩
    rw [eq_of_octet_mem ascii member]
    exact otherMember
  · intro member
    refine ⟨c, member, ?_⟩
    rw [utf8EncodeChar_of_ascii ascii]
    exact List.mem_singleton_self _

theorem spell_cons_of_ascii {c : Char} (ascii : c.toNat < 128) (rest : List Char) :
    spell (c :: rest) = octet c :: spell rest := by
  rw [spell_cons, utf8EncodeChar_of_ascii ascii, List.singleton_append]

theorem spell_of_ascii : ∀ {chars : List Char}, (∀ c ∈ chars, c.toNat < 128) →
    spell chars = chars.map octet
  | [], _ => rfl
  | c :: rest, ascii => by
      rw [spell_cons_of_ascii (ascii c List.mem_cons_self),
        spell_of_ascii fun other member => ascii other (List.mem_cons_of_mem c member),
        List.map_cons]

theorem spell_eq_nil_iff {chars : List Char} : spell chars = [] ↔ chars = [] := by
  cases chars with
  | nil => exact ⟨fun _ => rfl, fun _ => rfl⟩
  | cons c rest => simp [spell]

/-! ## Cutting -/

theorem splitOn_append_of_not_mem {α : Type} [BEq α] [LawfulBEq α] {separator : α}
    (back : List α) : ∀ {front : List α}, separator ∉ front →
      (front ++ back).splitOn separator = (back.splitOn separator).modifyHead (front ++ ·)
  | [], _ => by
      cases pieces : back.splitOn separator with
      | nil => exact absurd pieces (List.splitOn_ne_nil _ _)
      | cons piece rest => simp [pieces]
  | head :: front, absent => by
      rw [List.mem_cons, not_or] at absent
      rw [List.cons_append, List.splitOn_cons_eq_if_modifyHead,
        if_neg (by simpa using Ne.symm absent.1), splitOn_append_of_not_mem back absent.2,
        List.modifyHead_modifyHead]
      rfl

/-- Octets are cut at an ASCII character where the characters are. -/
theorem splitOn_spell {c : Char} (ascii : c.toNat < 128) (chars : List Char) :
    (spell chars).splitOn (octet c) = (chars.splitOn c).map spell := by
  induction chars with
  | nil => rfl
  | cons head rest inductionHypothesis =>
      rw [List.splitOn_cons_eq_if_modifyHead]
      by_cases same : head = c
      · subst same
        rw [if_pos (beq_self_eq_true head), spell_cons_of_ascii ascii,
          List.splitOn_cons_eq_if_modifyHead, if_pos (beq_self_eq_true (octet head)),
          inductionHypothesis]
        rfl
      · have absent : octet c ∉ String.utf8EncodeChar head :=
          fun member => same (eq_of_octet_mem ascii member).symm
        rw [if_neg (by simpa using same), spell_cons, splitOn_append_of_not_mem _ absent,
          inductionHypothesis]
        cases rest.splitOn c with
        | nil => rfl
        | cons piece pieces => rfl

theorem cut?_spell {c : Char} (ascii : c.toNat < 128) (chars : List Char) :
    Text.cut? (octet c) (spell chars) = (Text.cut? c chars).map (Prod.map spell spell) := by
  cases cut : Text.cut? c chars with
  | none =>
      rw [Text.cut?_eq_none_iff] at cut
      exact Text.cut?_eq_none_iff.mpr fun member => cut ((octet_mem_spell ascii).mp member)
  | some parts =>
      obtain ⟨front, back⟩ := parts
      have absent : octet c ∉ spell front := fun member =>
        Text.not_mem_of_cut? cut ((octet_mem_spell ascii).mp member)
      rw [Text.eq_append_of_cut? cut, spell_append, spell_cons_of_ascii ascii,
        Text.cut?_append absent]
      rfl

end HttpService.Utf8
