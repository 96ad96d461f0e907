/-!
Contract: octets and the text they spell.

Owns:
- octet sequences as lists;
- the octets of a text and the strict reading of octets as text;
- the lenient reading, which puts one replacement character in the place of
  each ill-formed run.

Does not own: percent escapes, or any character class.
-/

namespace HttpService

/-- A sequence of octets. -/
abbrev Bytes := List UInt8

namespace Utf8

def encode (text : String) : Bytes :=
  text.toUTF8.data.toList

/-- The text that octets spell, if they are well formed. -/
def decode? (bytes : Bytes) : Option String :=
  String.fromUTF8? ⟨bytes.toArray⟩

/-- A continuation octet is `10xxxxxx`. -/
def isContinuation (byte : UInt8) : Bool :=
  0x80 ≤ byte && byte ≤ 0xBF

/-- The second octets that may follow a lead octet: no overlong form, no
surrogate, nothing above U+10FFFF. -/
def mayFollow (lead second : UInt8) : Bool :=
  if lead == 0xE0 then 0xA0 ≤ second && second ≤ 0xBF
  else if lead == 0xED then 0x80 ≤ second && second ≤ 0x9F
  else if lead == 0xF0 then 0x90 ≤ second && second ≤ 0xBF
  else if lead == 0xF4 then 0x80 ≤ second && second ≤ 0x8F
  else isContinuation second

/-- How many octets follow a lead octet; `none` if it cannot start a character. -/
def followers? (lead : UInt8) : Option Nat :=
  if lead < 0x80 then some 0
  else if lead < 0xC2 then none
  else if lead < 0xE0 then some 1
  else if lead < 0xF0 then some 2
  else if lead < 0xF5 then some 3
  else none

/-- The octets after the lead that belong to its character, as far as they are
well formed. -/
def followersOf (lead : UInt8) (tail : Bytes) : Bytes :=
  match followers? lead, tail with
  | some (count + 1), second :: rest =>
      if mayFollow lead second then
        second :: (rest.take count).takeWhile isContinuation
      else []
  | _, _ => []

/-- The character that a lead octet and its followers spell, if they are complete. -/
def character? (lead : UInt8) (followers : Bytes) : Option Char :=
  if followers? lead = some followers.length then
    (decode? (lead :: followers)).bind (·.toList.head?)
  else none

/-- Characters in reading order, U+FFFD in the place of each longest ill-formed run. -/
def characters (bytes : Bytes) (read : List Char) : List Char :=
  match bytes with
  | [] => read.reverse
  | lead :: tail =>
      let followers := followersOf lead tail
      characters (tail.drop followers.length)
        ((character? lead followers).getD (Char.ofNat 0xFFFD) :: read)
termination_by bytes.length
decreasing_by simp only [List.length_drop, List.length_cons]; omega

/-- How many octets there are in front of the first ill-formed one. -/
def wellFormedLength (bytes : Bytes) : Nat :=
  match bytes with
  | [] => 0
  | lead :: tail =>
      let followers := followersOf lead tail
      if (character? lead followers).isSome then
        1 + followers.length + wellFormedLength (tail.drop followers.length)
      else 0
termination_by bytes.length
decreasing_by simp only [List.length_drop, List.length_cons]; omega

/-- The text that octets spell, with replacement characters where they are ill formed. -/
def decodeLossy (bytes : Bytes) : String :=
  match decode? bytes with
  | some text => text
  | none => String.ofList (characters bytes [])

theorem decode?_encode (text : String) : decode? (encode text) = some text := by
  have octets : (⟨(encode text).toArray⟩ : ByteArray) = text.toByteArray := by
    simp [encode, String.toUTF8]
  simp only [decode?, octets, String.fromUTF8?]
  rw [dif_pos text.isValidUTF8]
  rfl

theorem encode_of_decode? {bytes : Bytes} {text : String}
    (decoded : decode? bytes = some text) : encode text = bytes := by
  simp only [decode?, String.fromUTF8?] at decoded
  split at decoded
  · cases decoded
    simp [encode, String.toUTF8, String.fromUTF8]
  · cases decoded

theorem decodeLossy_encode (text : String) : decodeLossy (encode text) = text := by
  simp [decodeLossy, decode?_encode]

end Utf8

end HttpService
