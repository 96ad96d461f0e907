import HttpService.Text.Utf8

/-!
Contract: hexadecimal digits, and octets written with two of them.

Owns: the values of digits in either case, and the written form of octets in lower
case with its reading.

Does not own: the escapes that contain such digits.
-/

namespace HttpService.Text.Hexadecimal

/-- The value of a hexadecimal digit in either case. -/
def digitValue? (c : Char) : Option Nat :=
  if '0' ≤ c ∧ c ≤ '9' then some (c.toNat - 0x30)
  else if 'a' ≤ c ∧ c ≤ 'f' then some (c.toNat - 0x57)
  else if 'A' ≤ c ∧ c ≤ 'F' then some (c.toNat - 0x37)
  else none

/-- The value of an octet that is a hexadecimal digit. -/
def octetValue? (byte : UInt8) : Option Nat :=
  digitValue? (Char.ofNat byte.toNat)

def digitPair (byte : UInt8) : List Char :=
  [Nat.digitChar (byte.toNat / 16), Nat.digitChar (byte.toNat % 16)]

def encode (bytes : Bytes) : List Char :=
  bytes.flatMap digitPair

/-- The octet that two digits stand for. -/
def readPair? (high low : Char) : Option UInt8 :=
  match digitValue? high, digitValue? low with
  | some high, some low => some (UInt8.ofNat (16 * high + low))
  | _, _ => none

def decode? : List Char → Option Bytes
  | [] => some []
  | high :: low :: rest =>
      match readPair? high low, decode? rest with
      | some byte, some bytes => some (byte :: bytes)
      | _, _ => none
  | _ => none

theorem readPair?_digitPair (byte : UInt8) :
    readPair? (Nat.digitChar (byte.toNat / 16)) (Nat.digitChar (byte.toNat % 16)) = some byte := by
  have values : ∀ digit < 16, digitValue? (Nat.digitChar digit) = some digit := by decide
  have bound : byte.toNat < 256 := byte.toNat_lt
  simp only [readPair?, values _ (by omega : byte.toNat / 16 < 16),
    values _ (by omega : byte.toNat % 16 < 16), Nat.div_add_mod, UInt8.ofNat_toNat]

theorem decode?_encode (bytes : Bytes) : decode? (encode bytes) = some bytes := by
  induction bytes with
  | nil => rfl
  | cons byte rest inductionHypothesis =>
      simp only [encode] at inductionHypothesis
      simp [encode, digitPair, decode?, readPair?_digitPair, inductionHypothesis]

end HttpService.Text.Hexadecimal
