import HttpService.Json.Value
import HttpService.Text.Hexadecimal

/-!
Contract: taking JSON values apart.

Owns:
- the decoders of numbers, texts and lists;
- octets written as a text, as hexadecimal digits, as a repetition or in parts;
- the members of an object that may, or have to, be there.

Does not own: what a value describes.
-/

namespace HttpService.Json

/-- What makes something of a value, if the value has the right form. -/
abbrev Decoder (α : Type) := Value → Option α

namespace Decode

variable {α : Type}

def natural : Decoder Nat
  | .number (.natural value) => some value
  | _ => none

def boolean : Decoder Bool
  | .bool value => some value
  | _ => none

def items : Decoder (List Value)
  | .array items => some items
  | _ => none

def members : Decoder (List (String × Value))
  | .object members => some members
  | _ => none

/-- A list whose items are all of one form. -/
def each (decode : Decoder α) : Decoder (List α) :=
  fun value => (items value).bind (·.mapM decode)

/-- The value itself. -/
def any : Decoder Value := some

mutual

/-- Octets: the octets of a text, hexadecimal digits, a repetition, or parts one after
another. Null stands for none. -/
def octets : Decoder Bytes
  | .null => some []
  | .string content => some (Utf8.encode content)
  | .array parts => octetsOfParts parts
  | .object [("hex", .string digits)] => Text.Hexadecimal.decode? digits.toList
  | .object [("rep", .array [part, .number (.natural count)])] =>
      (octets part).map fun bytes => (List.replicate count bytes).flatten
  | _ => none

/-- The octets of parts one after another. -/
def octetsOfParts : List Value → Option Bytes
  | [] => some []
  | part :: rest =>
      match octets part, octetsOfParts rest with
      | some bytes, some others => some (bytes ++ others)
      | _, _ => none

end

/-- Octets that spell a text. -/
def text : Decoder String :=
  fun value => (octets value).bind Utf8.decode?

/-- A list of two texts. -/
def textPair : Decoder (String × String)
  | .array [first, second] =>
      match text first, text second with
      | some first, some second => some (first, second)
      | _, _ => none
  | _ => none

end Decode

namespace Value

variable {α : Type}

/-- The member of an object; null stands for no member. -/
def given? (value : Value) (key : String) : Option Value :=
  match value.member? key with
  | some .null => none
  | member => member

def optional? (value : Value) (key : String) (decode : Decoder α) : Option (Option α) :=
  match value.given? key with
  | none => some none
  | some member => (decode member).map some

/-- A member that stands for something else when it is missing. -/
def withDefault? (value : Value) (key : String) (decode : Decoder α) (default : α) : Option α :=
  (value.optional? key decode).map (·.getD default)

/-- A member that has to be there. -/
def required? (value : Value) (key : String) (decode : Decoder α) : Option α :=
  (value.member? key).bind decode

/-- A list that is empty when it is missing. -/
def listed? (value : Value) (key : String) (decode : Decoder α) : Option (List α) :=
  value.withDefault? key (Decode.each decode) []

end Value

/-- A member is smaller than the members it is found among. -/
theorem sizeOf_lookup {members : List (String × Value)} {key : String} {member : Value}
    (found : members.lookup key = some member) : sizeOf member < sizeOf members := by
  induction members with
  | nil => simp at found
  | cons entry rest inductionHypothesis =>
      obtain ⟨name, held⟩ := entry
      simp only [List.lookup_cons] at found
      split at found
      · cases found
        simp
        omega
      · have := inductionHypothesis found
        simp
        omega

/-- A member is smaller than its object. -/
theorem sizeOf_given? {value member : Value} {key : String}
    (found : value.given? key = some member) : sizeOf member < sizeOf value := by
  have held : value.member? key = some member := by
    simp only [Value.given?] at found
    split at found
    · cases found
    · exact found
  cases value with
  | object members =>
      have := sizeOf_lookup held
      simp
      omega
  | _ => simp [Value.member?] at held

end HttpService.Json
