import HttpService.Json.Failure
import HttpService.Json.Value
import HttpService.Text.Hexadecimal

/-!
Contract: reading one JSON value from octets.

Owns:
- the grammar, with at most 127 nested arrays and objects;
- numbers: integers of 64 bits stay exact, all others become doubles by one
  multiplication or division with a power of ten;
- where each fault is reported.

Does not own: the wording of the faults.
-/

namespace HttpService.Json

/-- The octets still to be read, and how many have been read. -/
structure Cursor where
  index : Nat
  rest : Bytes

namespace Cursor

def skip (cursor : Cursor) : Cursor :=
  match cursor.rest with
  | [] => cursor
  | _ :: rest => ⟨cursor.index + 1, rest⟩

/-- The cursor at the first of some octets for which `drop` does not hold; `index` have
been read in front of them. -/
def atFirst (drop : UInt8 → Bool) (index : Nat) : Bytes → Cursor
  | [] => ⟨index, []⟩
  | byte :: rest => if drop byte then atFirst drop (index + 1) rest else ⟨index, byte :: rest⟩

/-- The cursor after the next octets for which `drop` holds. -/
def skipWhile (drop : UInt8 → Bool) (cursor : Cursor) : Cursor :=
  atFirst drop cursor.index cursor.rest

def peek? (cursor : Cursor) : Option UInt8 :=
  cursor.rest.head?

end Cursor

/-- A fault: its cause, and how many octets count as read. -/
abbrev Fault := Cause × Nat

/-- The result of reading something: it, and where reading goes on. -/
abbrev Reading (α : Type) := Except Fault (α × Cursor)

/-- A fault in what has been read. -/
def Cursor.fail {α : Type} (cursor : Cursor) (cause : Cause) : Except Fault α :=
  .error (cause, cursor.index)

/-- A fault in the next octet, if there is one. -/
def Cursor.failNext {α : Type} (cursor : Cursor) (cause : Cause) : Except Fault α :=
  .error (cause, if cursor.rest.isEmpty then cursor.index else cursor.index + 1)

/-- The white space of JSON. -/
def isSpace (byte : UInt8) : Bool :=
  byte == 0x20 || byte == 0x0A || byte == 0x09 || byte == 0x0D

/-- The cursor at the next octet that is not white space. -/
def Cursor.skipSpace (cursor : Cursor) : Cursor :=
  cursor.skipWhile isSpace

def octet (c : Char) : UInt8 := c.toNat.toUInt8

/-- Whether an octet is a decimal digit. -/
def isDigit (byte : UInt8) : Bool :=
  0x30 ≤ byte && byte ≤ 0x39

/-- The value of a decimal digit. -/
def digit (byte : UInt8) : Nat := byte.toNat - 0x30

/-- Reads the remaining letters of a literal. -/
def readLetters (letters : List Char) (cursor : Cursor) : Except Fault Cursor :=
  match letters with
  | [] => .ok cursor
  | letter :: letters =>
      match cursor.rest with
      | [] => cursor.fail .endInValue
      | byte :: _ =>
          if byte = octet letter then readLetters letters cursor.skip
          else cursor.skip.fail .expectedLiteral

/-! ### Numbers -/

/-- The double nearest to `10 ^ n`, for `n` at most 308. -/
def powerOfTen (n : Nat) : Binary64 :=
  (Binary64.ofRatio? (Nat.pow 10 n) 1).getD .zero

/-- Scales a double down by steps of `10 ^ 308` until the exponent is in reach. -/
def scaleDown (x : Binary64) (exponent : Nat) : Nat → Binary64 × Nat
  | 0 => (x, exponent)
  | fuel + 1 =>
      if exponent ≤ 308 ∨ x.significand = 0 then (x, exponent)
      else scaleDown ((x.div? (powerOfTen 308)).getD .zero) (exponent - 308) fuel

/-- The double for `significand * 10 ^ exponent`, the significand below 2^64; `none`
if it is too large. Each step rounds, so the result need not be the nearest one. -/
def scale? (significand : Nat) (exponent : Int) : Option Binary64 :=
  match Binary64.ofRatio? significand 1 with
  | none => none
  | some x =>
      match exponent with
      | .ofNat n =>
          if n ≤ 308 then x.mul? (powerOfTen n)
          else if x.significand = 0 then some x else none
      | .negSucc n =>
          let (x, places) := scaleDown x (n + 1) 8
          if x.significand = 0 then some x else x.div? (powerOfTen places)

/-- The largest exponent that is kept, 2^31 - 1. -/
def exponentLimit : Nat := 2147483647

/-- Holds an exponent between the least and the greatest integer of 32 bits. -/
def clampExponent (exponent : Int) : Int :=
  max (-2147483648) (min 2147483647 exponent)

/-- A double as a number, with its sign. -/
def signed (positive : Bool) (x : Binary64) : Number :=
  .float (if positive then x else x.neg)

/-- The number for a significand and an exponent. -/
def finish (positive : Bool) (significand : Nat) (exponent : Int) (cursor : Cursor) :
    Reading Number :=
  match scale? significand exponent with
  | some x => .ok (signed positive x, cursor)
  | none => cursor.fail .numberOutOfRange

/-- Reads further digits of an exponent. -/
def readExponentDigits (positive positiveExponent : Bool) (significand : Nat)
    (start : Int) (exponent : Nat) (index : Nat) : Bytes → Reading Number
  | [] =>
      finish positive significand
        (clampExponent (if positiveExponent then start + exponent else start - exponent)) ⟨index, []⟩
  | byte :: rest =>
      if isDigit byte then
        let next := exponent * 10 + digit byte
        if next > exponentLimit then
          if significand ≠ 0 ∧ positiveExponent then
            (Cursor.mk (index + 1) rest).fail .numberOutOfRange
          else
            .ok (signed positive .zero, (Cursor.mk (index + 1) rest).skipWhile isDigit)
        else
          readExponentDigits positive positiveExponent significand start next (index + 1) rest
      else
        finish positive significand
          (clampExponent (if positiveExponent then start + exponent else start - exponent))
          ⟨index, byte :: rest⟩

/-- Reads an exponent from its mark on. -/
def readExponent (positive : Bool) (significand : Nat) (start : Int) (cursor : Cursor) :
    Reading Number :=
  let cursor := cursor.skip
  let (positiveExponent, cursor) :=
    if cursor.peek? = some (octet '+') then (true, cursor.skip)
    else if cursor.peek? = some (octet '-') then (false, cursor.skip)
    else (true, cursor)
  match cursor.rest with
  | [] => cursor.fail .endInValue
  | byte :: rest =>
      if isDigit byte then
        readExponentDigits positive positiveExponent significand start (digit byte)
          (cursor.index + 1) rest
      else cursor.skip.fail .invalidNumber

/-- Goes on with an exponent, or ends the number. -/
def endFraction (positive : Bool) (significand : Nat) (exponent : Int) (cursor : Cursor) :
    Reading Number :=
  if cursor.peek? = some (octet 'e') ∨ cursor.peek? = some (octet 'E') then
    readExponent positive significand exponent cursor
  else finish positive significand exponent cursor

/-- Whether a significand stays below 2^64 with one more digit. -/
def fits (significand : Nat) (byte : UInt8) : Bool :=
  significand * 10 + digit byte < Nat.pow 2 64

/-- Reads the digits after a point. Digits beyond 64 bits are dropped. -/
def readPlaces (positive : Bool) (significand : Nat) (start : Int) (places : Nat)
    (index : Nat) : Bytes → Reading Number
  | [] =>
      if places = 0 then (Cursor.mk index []).failNext .endInValue
      else finish positive significand (start - places) ⟨index, []⟩
  | byte :: rest =>
      if isDigit byte then
        if fits significand byte then
          readPlaces positive (significand * 10 + digit byte) start (places + 1) (index + 1) rest
        else
          endFraction positive significand (start - places)
            ((Cursor.mk index (byte :: rest)).skipWhile isDigit)
      else if places = 0 then (Cursor.mk index (byte :: rest)).failNext .invalidNumber
      else endFraction positive significand (start - places) ⟨index, byte :: rest⟩

/-- Reads what follows the digits of an integer beyond 64 bits. -/
def endLongInteger (positive : Bool) (significand : Nat) (cursor : Cursor) : Reading Number :=
  let after := cursor.skipWhile isDigit
  let exponent : Int := after.index - cursor.index
  if after.peek? = some (octet '.') then
    readPlaces positive significand exponent 0 after.skip.index after.skip.rest
  else endFraction positive significand exponent after

/-- Reads what follows the digits of an integer. -/
def endInteger (positive : Bool) (significand : Nat) (cursor : Cursor) : Reading Number :=
  match cursor.peek? with
  | some byte =>
      if byte = octet '.' then
        readPlaces positive significand 0 0 cursor.skip.index cursor.skip.rest
      else if byte = octet 'e' ∨ byte = octet 'E' then
        readExponent positive significand 0 cursor
      else .ok (integer, cursor)
  | none => .ok (integer, cursor)
where
  /-- A negative integer below -2^63, and negative zero, is a double. -/
  integer : Number :=
    if positive then .natural significand
    else if significand = 0 ∨ Nat.pow 2 63 < significand then
      signed false ((Binary64.ofRatio? significand 1).getD .zero)
    else .negative significand

def readDigits (positive : Bool) (significand : Nat) (index : Nat) : Bytes → Reading Number
  | [] => endInteger positive significand ⟨index, []⟩
  | byte :: rest =>
      if isDigit byte then
        if fits significand byte then
          readDigits positive (significand * 10 + digit byte) (index + 1) rest
        else endLongInteger positive significand ⟨index, byte :: rest⟩
      else endInteger positive significand ⟨index, byte :: rest⟩

def readNumber (positive : Bool) (cursor : Cursor) : Reading Number :=
  match cursor.rest with
  | [] => cursor.fail .endInValue
  | byte :: rest =>
      if byte = octet '0' then
        match rest with
        | next :: _ =>
            if isDigit next then cursor.skip.failNext .invalidNumber
            else endInteger positive 0 cursor.skip
        | [] => endInteger positive 0 cursor.skip
      else if isDigit byte then readDigits positive (digit byte) (cursor.index + 1) rest
      else cursor.skip.fail .invalidNumber

/-! ### Strings -/

def readHex (cursor : Cursor) : Reading Nat :=
  match cursor.rest with
  | a :: b :: c :: d :: rest =>
      let after : Cursor := ⟨cursor.index + 4, rest⟩
      match [a, b, c, d].mapM Text.Hexadecimal.octetValue? with
      | some digits => .ok (digits.foldl (fun value digit => 16 * value + digit) 0, after)
      | none => after.fail .invalidEscape
  | rest => (Cursor.mk (cursor.index + rest.length) []).fail .endInString

/-- Requires an octet between the two halves of a surrogate pair. -/
def expectInPair (c : Char) (cursor : Cursor) : Except Fault Cursor :=
  match cursor.rest with
  | [] => cursor.fail .endInString
  | byte :: _ =>
      if byte = octet c then .ok cursor.skip else cursor.skip.fail .endOfHexEscape

/-- Reads the character of a hexadecimal escape, after `\u`. -/
def readUnicode (cursor : Cursor) : Reading Char :=
  match readHex cursor with
  | .error fault => .error fault
  | .ok (high, cursor) =>
      if 0xDC00 ≤ high ∧ high ≤ 0xDFFF then cursor.fail .loneSurrogate
      else if high < 0xD800 ∨ 0xDBFF < high then .ok (Char.ofNat high, cursor)
      else
        match (expectInPair '\\' cursor).bind (expectInPair 'u') |>.bind readHex with
        | .error fault => .error fault
        | .ok (low, cursor) =>
            if low < 0xDC00 ∨ 0xDFFF < low then cursor.fail .loneSurrogate
            else .ok (Char.ofNat ((high - 0xD800) * 0x400 + (low - 0xDC00) + 0x10000), cursor)

/-- Reads an escape after its backslash, as octets. -/
def readEscape (cursor : Cursor) : Reading Bytes :=
  match cursor.rest with
  | [] => cursor.fail .endInString
  | byte :: _ =>
      let after := cursor.skip
      if byte = octet '"' ∨ byte = octet '\\' ∨ byte = octet '/' then .ok ([byte], after)
      else if byte = octet 'b' then .ok ([0x08], after)
      else if byte = octet 'f' then .ok ([0x0C], after)
      else if byte = octet 'n' then .ok ([0x0A], after)
      else if byte = octet 'r' then .ok ([0x0D], after)
      else if byte = octet 't' then .ok ([0x09], after)
      else if byte = octet 'u' then
        (readUnicode after).map fun (c, cursor) => (Utf8.encode (String.singleton c), cursor)
      else after.fail .invalidEscape

/-- Reads the octets of a string up to its closing quote; `read` holds the octets so
far, last first. -/
def readOctets (fuel : Nat) (read : Bytes) (cursor : Cursor) : Reading Bytes :=
  match fuel with
  | 0 => cursor.fail .endInString
  | fuel + 1 =>
      match cursor.rest with
      | [] => cursor.fail .endInString
      | byte :: rest =>
          let after : Cursor := ⟨cursor.index + 1, rest⟩
          if byte = octet '"' then .ok (read.reverse, after)
          else if byte = octet '\\' then
            match readEscape after with
            | .ok (octets, cursor) => readOctets fuel (octets.reverse ++ read) cursor
            | .error fault => .error fault
          else if byte < 0x20 then after.fail .controlInString
          else readOctets fuel (byte :: read) after

/-- Reads a string after its opening quote. The first octet that spells no text is
reported as far in front of the string's end as it is in the unescaped octets. -/
def readString (fuel : Nat) (start : Cursor) : Reading String :=
  match readOctets fuel [] start with
  | .error fault => .error fault
  | .ok (octets, after) =>
      match Utf8.decode? octets with
      | some text => .ok (text, after)
      | none =>
          .error (.invalidCodePoint, after.index - (octets.length - Utf8.wellFormedLength octets))

/-! ### Values -/

/-- After an item: the cursor of the next one, or none at the end of the list. -/
def nextItem (first : Bool) (cursor : Cursor) : Except Fault (Option Cursor) :=
  let cursor := cursor.skipSpace
  match cursor.rest with
  | [] => cursor.failNext .endInList
  | byte :: _ =>
      if byte = octet ']' then .ok none
      else if first then .ok (some cursor)
      else if byte = octet ',' then
        let cursor := cursor.skip.skipSpace
        match cursor.rest with
        | [] => cursor.failNext .endInValue
        | byte :: _ =>
            if byte = octet ']' then cursor.failNext .trailingComma else .ok (some cursor)
      else cursor.failNext .expectedListEnd

/-- After a member: the cursor of the next key, or none at the end of the object. -/
def nextKey (first : Bool) (cursor : Cursor) : Except Fault (Option Cursor) :=
  let cursor := cursor.skipSpace
  match cursor.rest with
  | [] => cursor.failNext .endInObject
  | byte :: _ =>
      if byte = octet '}' then .ok none
      else if first then
        if byte = octet '"' then .ok (some cursor) else cursor.failNext .keyNotString
      else if byte = octet ',' then
        let cursor := cursor.skip.skipSpace
        match cursor.rest with
        | [] => cursor.failNext .endInValue
        | byte :: _ =>
            if byte = octet '"' then .ok (some cursor)
            else if byte = octet '}' then cursor.failNext .trailingComma
            else cursor.failNext .keyNotString
      else cursor.failNext .expectedObjectEnd

/-- Reads the colon between a key and its value. -/
def readColon (cursor : Cursor) : Except Fault Cursor :=
  let cursor := cursor.skipSpace
  match cursor.rest with
  | [] => cursor.failNext .endInObject
  | byte :: _ => if byte = octet ':' then .ok cursor.skip else cursor.failNext .expectedColon

mutual

/-- Reads a value. `depth` arrays and objects may still be opened, and `fuel` is
more than twice the number of octets left. -/
def readValue (fuel depth : Nat) (cursor : Cursor) : Reading Value :=
  match fuel with
  | 0 => cursor.failNext .endInValue
  | fuel + 1 =>
      let cursor := cursor.skipSpace
      match cursor.rest with
      | [] => cursor.failNext .endInValue
      | byte :: _ =>
          if byte = octet 'n' then
            (readLetters "ull".toList cursor.skip).map fun after => (.null, after)
          else if byte = octet 't' then
            (readLetters "rue".toList cursor.skip).map fun after => (.bool true, after)
          else if byte = octet 'f' then
            (readLetters "alse".toList cursor.skip).map fun after => (.bool false, after)
          else if byte = octet '-' then
            (readNumber false cursor.skip).map fun (number, after) => (.number number, after)
          else if isDigit byte then
            (readNumber true cursor).map fun (number, after) => (.number number, after)
          else if byte = octet '"' then
            (readString fuel cursor.skip).map fun (text, after) =>
              (.string text, after)
          else if byte = octet '[' then
            if depth = 0 then cursor.failNext .tooDeep
            else readItems fuel (depth - 1) true [] cursor.skip
          else if byte = octet '{' then
            if depth = 0 then cursor.failNext .tooDeep
            else readMembers fuel (depth - 1) true [] cursor.skip
          else cursor.failNext .expectedValue

/-- Reads the items of a list and its end; `read` holds the items so far, last first. -/
def readItems (fuel depth : Nat) (first : Bool) (read : List Value) (cursor : Cursor) :
    Reading Value :=
  match fuel with
  | 0 => cursor.failNext .endInList
  | fuel + 1 =>
      match nextItem first cursor with
      | .error fault => .error fault
      | .ok none => .ok (.array read.reverse, cursor.skipSpace.skip)
      | .ok (some cursor) =>
          match readValue fuel depth cursor with
          | .error fault => .error fault
          | .ok (value, cursor) => readItems fuel depth false (value :: read) cursor

/-- Reads the members of an object and its end; `read` holds the members so far. -/
def readMembers (fuel depth : Nat) (first : Bool) (read : List (String × Value))
    (cursor : Cursor) : Reading Value :=
  match fuel with
  | 0 => cursor.failNext .endInObject
  | fuel + 1 =>
      match nextKey first cursor with
      | .error fault => .error fault
      | .ok none => .ok (.object read, cursor.skipSpace.skip)
      | .ok (some cursor) =>
          match readString fuel cursor.skip with
          | .error fault => .error fault
          | .ok (key, cursor) =>
              match readColon cursor with
              | .error fault => .error fault
              | .ok cursor =>
                  match readValue fuel depth cursor with
                  | .error fault => .error fault
                  | .ok (value, cursor) =>
                      readMembers fuel depth false (insertMember key value read) cursor

end

/-- How many arrays and objects may be nested. -/
def maxDepth : Nat := 127

/-- Reads octets that hold one value and white space around it. -/
def parse (input : Bytes) : Except Failure Value :=
  let located := fun ((cause, index) : Fault) => Failure.after cause input index
  match readValue (2 * input.length + 2) maxDepth ⟨0, input⟩ with
  | .error fault => .error (located fault)
  | .ok (value, cursor) =>
      let cursor := cursor.skipSpace
      if cursor.rest.isEmpty then .ok value
      else .error (located (.trailingText, cursor.index + 1))

/-- Reads a text that holds one value. -/
def parseText (text : String) : Except Failure Value :=
  parse (Utf8.encode text)

end HttpService.Json
