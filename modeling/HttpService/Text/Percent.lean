import HttpService.Text.Hexadecimal

/-!
Contract: percent escapes, `%` and two hexadecimal digits for one octet.

Owns: which octets are well-formed escapes, their decoding, and the encoding
that escapes everything but ASCII letters and digits.

Does not own: text; all functions work on octets.
-/

namespace HttpService.Text.Percent

/-- The octet `%`. -/
def mark : UInt8 := 0x25

/-- The octet that three octets stand for if they are an escape. -/
def escaped? (first high low : UInt8) : Option UInt8 :=
  if first = mark then
    Hexadecimal.readPair? (Char.ofNat high.toNat) (Char.ofNat low.toNat)
  else none

/-- Whether the octet at an index is a hexadecimal digit; none if there is no octet. -/
def digitAt? (octets : Array UInt8) (index : Nat) : Option Bool :=
  octets[index]?.map fun byte => (Hexadecimal.octetValue? byte).isSome

/-- Whether two digits stand behind an index. The second octet is looked at only if the first is a
digit; none if an octet is looked at that is not there. -/
def digitsBehind? (octets : Array UInt8) (index : Nat) : Option Bool :=
  if index + 2 < octets.size then
    match digitAt? octets (index + 1) with
    | some true => digitAt? octets (index + 2)
    | verdict => verdict
  else some false

/-- Whether every `%` from an index on starts an escape, which is stepped over as a whole; none if
an octet is looked at that is not there. -/
def scanFrom? (octets : Array UInt8) (index : Nat) : Option Bool :=
  if index < octets.size then
    match octets[index]? with
    | none => none
    | some byte =>
        if byte = mark then
          match digitsBehind? octets index with
          | some true => scanFrom? octets (index + 3)
          | verdict => verdict
        else scanFrom? octets (index + 1)
  else some true
termination_by octets.size - index

/-- Whether every `%` starts an escape, read from the front. -/
def isWellFormed (bytes : Bytes) : Bool :=
  scanFrom? bytes.toArray 0 == some true

/-- Replaces each escape by its octet; a `%` that starts none stays. -/
def decode : Bytes → Bytes
  | [] => []
  | [byte] => [byte]
  | [byte, next] => [byte, next]
  | byte :: high :: low :: rest =>
      match escaped? byte high low with
      | some value => value :: decode rest
      | none => byte :: decode (high :: low :: rest)

/-- Whether an octet is an ASCII letter or digit. -/
def isAlphanumeric (byte : UInt8) : Bool :=
  (0x30 ≤ byte && byte ≤ 0x39) || (0x41 ≤ byte && byte ≤ 0x5A) || (0x61 ≤ byte && byte ≤ 0x7A)

/-- An upper-case hexadecimal digit. -/
def hexChar (value : Nat) : Char :=
  (Nat.digitChar value).toUpper

/-- The escape of one octet, or the octet itself. -/
def encodeByte (byte : UInt8) : List Char :=
  if isAlphanumeric byte then [Char.ofNat byte.toNat]
  else ['%', hexChar (byte.toNat / 16), hexChar (byte.toNat % 16)]

/-- A text with everything escaped but ASCII letters and digits. -/
def encode (text : String) : String :=
  String.ofList ((Utf8.encode text).flatMap encodeByte)

end HttpService.Text.Percent
