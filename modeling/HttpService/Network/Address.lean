import HttpService.Text.Hexadecimal
import HttpService.Text.Numeral
import HttpService.Text.Split

/-!
Contract: addresses of the two ends of a connection.

Owns:
- IPv4 and IPv6 addresses with a port, their reading and writing; of the longest
  runs of zero groups the first is left out;
- which addresses belong to the machine itself.

Does not own: connections.
-/

namespace HttpService.Network

open Text

/-- An IP address: four octets or eight groups of 16 bits. -/
inductive IpAddress where
  | v4 (octets : List Nat)
  | v6 (groups : List Nat)
deriving DecidableEq, Repr

structure SocketAddress where
  ip : IpAddress
  /-- The scope of an IPv6 address; zero for none. -/
  scope : Nat
  port : Nat
deriving DecidableEq, Repr

/-! ### Writing -/

/-- Parts with a separator between them. -/
def joined (separator : String) (parts : List String) : String :=
  separator.intercalate parts

/-- A group in lower-case hexadecimal. -/
def groupText (group : Nat) : String :=
  String.ofList (Nat.toDigits 16 group)

/-- The length of the run of zeros at the beginning. -/
def zeroRun (groups : List Nat) : Nat :=
  (groups.takeWhile (· = 0)).length

/-- Start and length of the longest run of zeros; of equals the first. -/
def longestZeroRun (index : Nat) : List Nat → Nat × Nat
  | [] => (index, 0)
  | group :: rest =>
      let here := zeroRun (group :: rest)
      let later := longestZeroRun (index + 1) rest
      if later.2 ≤ here then (index, here) else later

/-- The groups of an IPv6 address as text. -/
def groupsText (groups : List Nat) : String :=
  let (start, length) := longestZeroRun 0 groups
  if length > 1 then
    joined ":" ((groups.take start).map groupText) ++ "::" ++
      joined ":" ((groups.drop (start + length)).map groupText)
  else joined ":" (groups.map groupText)

/-- The address as text. An IPv4 address inside an IPv6 address keeps its dots. -/
def IpAddress.render : IpAddress → String
  | v4 octets => joined "." (octets.map toString)
  | v6 [0, 0, 0, 0, 0, 0xFFFF, high, low] =>
      "::ffff:" ++ joined "." ([high / 256, high % 256, low / 256, low % 256].map toString)
  | v6 groups => groupsText groups

/-- The address with its port as text. -/
def SocketAddress.render (address : SocketAddress) : String :=
  match address.ip with
  | .v4 _ => address.ip.render ++ ":" ++ toString address.port
  | .v6 _ =>
      let scope := if address.scope = 0 then "" else "%" ++ toString address.scope
      "[" ++ address.ip.render ++ scope ++ "]:" ++ toString address.port

/-! ### Reading -/

/-- Reads a decimal number below `limit`. -/
def readDecimal? (limit : Nat) (digits : List Char) : Option Nat :=
  if digits ≠ [] ∧ digits.all Char.isDigit = true ∧ digitsValue digits < limit then
    some (digitsValue digits)
  else none

/-- Reads an octet: at most three digits without a leading zero. -/
def readOctet? (digits : List Char) : Option Nat :=
  if digits.length ≤ 3 ∧ (digits.length = 1 ∨ digits.head? ≠ some '0') then
    readDecimal? 256 digits
  else none

def readOctets? (chars : List Char) : Option (List Nat) :=
  match (chars.splitOn '.').mapM readOctet? with
  | some octets => if octets.length = 4 then some octets else none
  | none => none

/-- Reads a group of one to four hexadecimal digits. -/
def readGroup? (digits : List Char) : Option Nat :=
  if digits = [] ∨ digits.length > 4 then none
  else (digits.mapM Hexadecimal.digitValue?).map fun values =>
    values.foldl (fun value digit => 16 * value + digit) 0

/-- Reads groups between colons; the last part may be an IPv4 address if
`dotted` allows it. -/
def readGroups? (dotted : Bool) : List (List Char) → Option (List Nat)
  | [] => some []
  | [part] =>
      if part.contains '.' then
        if dotted then
          (readOctets? part).bind fun octets =>
            match octets with
            | [a, b, c, d] => some [a * 256 + b, c * 256 + d]
            | _ => none
        else none
      else (readGroup? part).map ([·])
  | part :: rest =>
      match readGroup? part, readGroups? dotted rest with
      | some group, some groups => some (group :: groups)
      | _, _ => none

/-- Groups between colons; no groups in an empty text. -/
def readSide? (dotted : Bool) (chars : List Char) : Option (List Nat) :=
  if chars = [] then some [] else readGroups? dotted (chars.splitOn ':')

/-- What stands before and after the first `::`. -/
def cutGap? : List Char → Option (List Char × List Char)
  | ':' :: ':' :: rest => some ([], rest)
  | c :: rest => (cutGap? rest).map fun (front, after) => (c :: front, after)
  | [] => none

/-- Reads eight groups, a run of zeros of which may be left out once. -/
def readV6? (chars : List Char) : Option (List Nat) :=
  match cutGap? chars with
  | none =>
      match readSide? true chars with
      | some groups => if groups.length = 8 then some groups else none
      | none => none
  | some (front, after) =>
      match readSide? false front, readSide? true after with
      | some front, some after =>
          if front.length + after.length ≤ 7 then
            some (front ++ List.replicate (8 - front.length - after.length) 0 ++ after)
          else none
      | _, _ => none

/-- Reads what stands between brackets: an IPv6 address, and a scope behind `%`. -/
def readScoped? (chars : List Char) : Option (List Nat × Nat) :=
  match cut? '%' chars with
  | none => (readV6? chars).map fun groups => (groups, 0)
  | some (address, scope) =>
      match readV6? address, readDecimal? (Nat.pow 2 32) scope with
      | some groups, some scope => some (groups, scope)
      | _, _ => none

def SocketAddress.parse? (text : String) : Option SocketAddress :=
  match text.toList with
  | '[' :: rest =>
      match cut? ']' rest with
      | some (inner, ':' :: port) =>
          match readScoped? inner, readDecimal? 65536 port with
          | some (groups, scope), some port => some ⟨.v6 groups, scope, port⟩
          | _, _ => none
      | _ => none
  | chars =>
      match cut? ':' chars with
      | some (address, port) =>
          match readOctets? address, readDecimal? 65536 port with
          | some octets, some port => some ⟨.v4 octets, 0, port⟩
          | _, _ => none
      | none => none

/-- Whether the machine itself has an address: loopback, or unspecified. -/
def IpAddress.isLocal : IpAddress → Bool
  | v4 octets => octets.head? = some 127 || octets.all (· = 0)
  | v6 groups => groups.take 7 = List.replicate 7 0 && groups.getLastD 0 ≤ 1

end HttpService.Network
