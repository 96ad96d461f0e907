import HttpService.Text.Numeral
import HttpService.Text.Split

/-!
Contract: why a text is no JSON value, and where.

Owns: the causes, their wording, and lines and columns counted in octets.
-/

namespace HttpService.Json

inductive Cause where
  | endInList | endInObject | endInString | endInValue
  | expectedColon | expectedListEnd | expectedObjectEnd | expectedLiteral | expectedValue
  | invalidEscape | invalidNumber | numberOutOfRange | invalidCodePoint
  | controlInString | keyNotString | loneSurrogate | trailingComma | trailingText
  | endOfHexEscape | tooDeep
  | custom (text : String)
deriving DecidableEq, Repr

def Cause.message : Cause → String
  | endInList => "EOF while parsing a list"
  | endInObject => "EOF while parsing an object"
  | endInString => "EOF while parsing a string"
  | endInValue => "EOF while parsing a value"
  | expectedColon => "expected `:`"
  | expectedListEnd => "expected `,` or `]`"
  | expectedObjectEnd => "expected `,` or `\x7d`"
  | expectedLiteral => "expected ident"
  | expectedValue => "expected value"
  | invalidEscape => "invalid escape"
  | invalidNumber => "invalid number"
  | numberOutOfRange => "number out of range"
  | invalidCodePoint => "invalid unicode code point"
  | controlInString => "control character (\\u0000-\\u001F) found while parsing a string"
  | keyNotString => "key must be a string"
  | loneSurrogate => "lone leading surrogate in hex escape"
  | trailingComma => "trailing comma"
  | trailingText => "trailing characters"
  | endOfHexEscape => "unexpected end of hex escape"
  | tooDeep => "recursion limit exceeded"
  | custom text => text

/-- A cause and its place. Line zero stands for no place. -/
structure Failure where
  cause : Cause
  line : Nat
  column : Nat
deriving DecidableEq, Repr

def Failure.message (failure : Failure) : String :=
  if failure.line = 0 then failure.cause.message
  else failure.cause.message ++ " at line " ++ toString failure.line ++
    " column " ++ toString failure.column

/-- The failure after `index` octets of a text: lines end at line feeds, and the
column is the number of octets since the last one. -/
def Failure.after (cause : Cause) (input : List UInt8) (index : Nat) : Failure :=
  let read := input.take index
  ⟨cause, 1 + read.count 10, (read.reverse.takeWhile (· != 10)).length⟩

/-- Splits a text that ends in ` at line L column C` into the rest and the place. -/
def splitPlace? (chars : List Char) : Option (List Char × Nat × Nat) :=
  let back := chars.reverse
  let column := (back.takeWhile Char.isDigit).reverse
  let back := back.drop column.length
  let columnMark := " column ".toList.reverse
  if columnMark.isPrefixOf back then
    let back := back.drop columnMark.length
    let line := (back.takeWhile Char.isDigit).reverse
    let back := back.drop line.length
    let lineMark := " at line ".toList.reverse
    if lineMark.isPrefixOf back then
      match Text.readSize? line, Text.readSize? column with
      | some line, some column => some ((back.drop lineMark.length).reverse, line, column)
      | _, _ => none
    else none
  else none

/-- A failure with a wording of its own. A place at the end of the wording is
taken as the place of the failure. -/
def Failure.custom (text : String) : Failure :=
  match splitPlace? text.toList with
  | some (cause, line, column) => ⟨.custom (String.ofList cause), line, column⟩
  | none => ⟨.custom text, 0, 0⟩

end HttpService.Json
