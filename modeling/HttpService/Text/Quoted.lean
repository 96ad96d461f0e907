import HttpService.Text.Printable

/-!
Contract: texts quoted inside messages.

Owns: the quoted form of a text. It stands between double quotes; a backslash, a
double quote and the usual controls get a short escape, other characters that do
not show by themselves get their code point.

Does not own: the messages.
-/

namespace HttpService.Text.Quoted

/-- The digits of a code point in lower-case hexadecimal. -/
def hexDigits (code : Nat) : List Char :=
  Nat.toDigits 16 code

/-- How one character is written between the quotes. -/
def escape (c : Char) : List Char :=
  if c = Char.ofNat 0 then ['\\', '0']
  else if c = '\t' then ['\\', 't']
  else if c = '\r' then ['\\', 'r']
  else if c = '\n' then ['\\', 'n']
  else if c = '\\' ∨ c = '"' then ['\\', c]
  else if isPrintable c then [c]
  else ['\\', 'u', '{'] ++ hexDigits c.toNat ++ ['}']

def text (raw : String) : String :=
  String.ofList ('"' :: (raw.toList.flatMap escape ++ ['"']))

end HttpService.Text.Quoted
