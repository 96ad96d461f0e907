import HttpService.Json.Value
import HttpService.Text.Hexadecimal

/-!
Contract: the compact written form of a JSON value.

Owns: escapes, the layout of doubles, and the absence of blanks.

Does not own: the choice of a double's digits.
-/

namespace HttpService.Json

/-- How doubles are laid out. An exponent has a sign and no leading zeros. -/
structure FloatLayout where
  /-- Most digits in front of the point without an exponent. -/
  wholeDigits : Int
  /-- Most zeros between the point and the first digit, plus one. -/
  leadingZeros : Int

/-- Up to 16 digits stand in front of the point, up to four zeros behind it;
beyond that an exponent is written. -/
def floatLayout : FloatLayout := ⟨16, 5⟩

/-- Copies of the digit zero. -/
def zeros (count : Int) : String :=
  String.ofList (List.replicate count.toNat '0')

/-- An exponent with its mark and sign. -/
def renderExponent (exponent : Int) : String :=
  (if exponent < 0 then "e-" else "e+") ++ toString exponent.natAbs

/-- A double as text, always with a point or an exponent. -/
def renderFloat (layout : FloatLayout) (x : Binary64) : String :=
  let decimal := x.shortest
  let digits := Nat.repr decimal.digits
  let point : Int := digits.length + decimal.exponent
  let sign := if x.negative then "-" else ""
  let head := fun (count : Nat) => String.ofList (digits.toList.take count)
  let tail := fun (count : Nat) => String.ofList (digits.toList.drop count)
  sign ++
    if x.significand = 0 then "0.0"
    else if 0 ≤ decimal.exponent ∧ point ≤ layout.wholeDigits then
      digits ++ zeros decimal.exponent ++ ".0"
    else if 0 < point ∧ point ≤ layout.wholeDigits then
      head point.toNat ++ "." ++ tail point.toNat
    else if -layout.leadingZeros < point ∧ point ≤ 0 then
      "0." ++ zeros (-point) ++ digits
    else if digits.length = 1 then digits ++ renderExponent (point - 1)
    else head 1 ++ "." ++ tail 1 ++ renderExponent (point - 1)

def Number.render : Number → String
  | natural value => Nat.repr value
  | negative magnitude => "-" ++ Nat.repr magnitude
  | float value => renderFloat floatLayout value

/-- How one character is written inside a string. -/
def escapeChar (c : Char) : List Char :=
  if c = '"' then ['\\', '"']
  else if c = '\\' then ['\\', '\\']
  else if c = '\n' then ['\\', 'n']
  else if c = '\r' then ['\\', 'r']
  else if c = '\t' then ['\\', 't']
  else if c.toNat = 0x08 then ['\\', 'b']
  else if c.toNat = 0x0C then ['\\', 'f']
  else if c.toNat < 0x20 then ['\\', 'u', '0', '0'] ++ Text.Hexadecimal.digitPair (UInt8.ofNat c.toNat)
  else [c]

/-- A string between quotes. -/
def renderString (text : String) : String :=
  String.ofList ('"' :: (text.toList.flatMap escapeChar ++ ['"']))

mutual

def Value.pieces : Value → List String
  | .null => ["null"]
  | .bool value => [if value then "true" else "false"]
  | .number value => [value.render]
  | .string text => [renderString text]
  | .array items => "[" :: (itemPieces items ++ ["]"])
  | .object members => "\x7b" :: (memberPieces members ++ ["\x7d"])

/-- The pieces of the items of a list, with commas between them. -/
def itemPieces : List Value → List String
  | [] => []
  | [value] => value.pieces
  | value :: next :: rest => value.pieces ++ "," :: itemPieces (next :: rest)

/-- The pieces of the members of an object, with commas between them. -/
def memberPieces : List (String × Value) → List String
  | [] => []
  | [(key, value)] => renderString key :: ":" :: value.pieces
  | (key, value) :: next :: rest =>
      renderString key :: ":" :: (value.pieces ++ "," :: memberPieces (next :: rest))

end

def Value.render (value : Value) : String :=
  String.join value.pieces

end HttpService.Json
