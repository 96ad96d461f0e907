/-!
Contract: numbers as they are written in headers.

Owns:
- unsigned decimal integers below 2^64, with an optional plus sign;
- whether a decimal fraction denotes at most zero in single precision, which is
  what a refused quality value is.

Does not own: the numbers of JSON.
-/

namespace HttpService.Text

def digitValue (c : Char) : Nat :=
  c.toNat - '0'.toNat

/-- The value of a run of decimal digits. -/
def digitsValue (digits : List Char) : Nat :=
  digits.foldl (fun value c => 10 * value + digitValue c) 0

/-- A value with one more digit, if it stays below 2^64. -/
def addDigit? (value : Nat) (c : Char) : Option Nat :=
  let next := 10 * value + digitValue c
  if next < Nat.pow 2 64 then some next else none

/-- The value of a run of decimal digits, if it is below 2^64. -/
def sizeValue? (digits : List Char) : Option Nat :=
  digits.foldlM addDigit? 0

/-- Further digits never make a value smaller. -/
theorem le_foldl_digits : ∀ (digits : List Char) (start : Nat),
    start ≤ digits.foldl (fun value c => 10 * value + digitValue c) start
  | [], _ => Nat.le_refl _
  | c :: digits, start =>
      Nat.le_trans (by omega) (le_foldl_digits digits (10 * start + digitValue c))

/-- From any start, adding digits stops exactly where the exact value is too large. -/
theorem foldlM_addDigit? : ∀ (digits : List Char) (start : Nat), start < Nat.pow 2 64 →
    digits.foldlM addDigit? start =
      let total := digits.foldl (fun value c => 10 * value + digitValue c) start
      if total < Nat.pow 2 64 then some total else none
  | [], start, small => by
      simp only [List.foldlM_nil, List.foldl_nil, small, if_true]
      rfl
  | c :: digits, start, _ => by
      simp only [List.foldlM_cons, List.foldl_cons, addDigit?]
      by_cases fits : 10 * start + digitValue c < Nat.pow 2 64
      · simp only [fits, if_true]
        exact foldlM_addDigit? digits _ fits
      · have atLeast := le_foldl_digits digits (10 * start + digitValue c)
        simp only [fits, if_false]
        exact (if_neg (by omega)).symm

/-- The value is exact wherever there is one. -/
theorem sizeValue?_eq (digits : List Char) :
    sizeValue? digits =
      if digitsValue digits < Nat.pow 2 64 then some (digitsValue digits) else none :=
  foldlM_addDigit? digits 0 (by decide)

/-- Reads one or more digits after an optional plus sign, up to 2^64 - 1. -/
def readSize? (chars : List Char) : Option Nat :=
  let digits := match chars with
    | '+' :: rest => rest
    | _ => chars
  if digits ≠ [] ∧ digits.all Char.isDigit = true then sizeValue? digits else none

def unsigned : List Char → Bool × List Char
  | '-' :: rest => (true, rest)
  | '+' :: rest => (false, rest)
  | chars => (false, chars)

/-- A decimal fraction without sign: its digits from the first that is not zero on, as
one integer, and the power of ten that scales it. -/
structure Fraction where
  significand : List Char
  exponent : Int
deriving DecidableEq, Repr

/-- No digit is added to an exponent that has reached this size. -/
def exponentLimit : Nat := Nat.pow 2 16

/-- The size of an exponent: the value of its digits, as far as they are added. -/
def exponentSize (digits : List Char) : Nat :=
  digits.foldl
    (fun size c => if size < exponentLimit then 10 * size + digitValue c else size) 0

/-- The exponent after `e`, if it is one. -/
def readExponent? (chars : List Char) : Option Int :=
  let (negative, digits) := unsigned chars
  if digits ≠ [] ∧ digits.all Char.isDigit = true then
    let size : Int := exponentSize digits
    some (if negative then -size else size)
  else none

/-- Reads digits, optionally a point and more digits, optionally an exponent;
at least one digit in front of the exponent. -/
def readFraction? (chars : List Char) : Option Fraction :=
  let whole := chars.takeWhile Char.isDigit
  let (places, rest) := match chars.dropWhile Char.isDigit with
    | '.' :: after => (after.takeWhile Char.isDigit, after.dropWhile Char.isDigit)
    | other => ([], other)
  if whole = [] ∧ places = [] then none
  else
    let significand := (whole ++ places).dropWhile (· = '0')
    let scale : Int := -places.length
    match rest with
    | [] => some ⟨significand, scale⟩
    | mark :: digits =>
        if mark = 'e' ∨ mark = 'E' then
          (readExponent? digits).map fun exponent => ⟨significand, exponent + scale⟩
        else none

/-- A fraction rounds to zero in single precision iff it is at most 2^-150, half of the
least positive number. That number is between 10^-46 and 10^-45, so that only a fraction
in between has to be compared with it. -/
def Fraction.vanishes (fraction : Fraction) : Bool :=
  let places := fraction.significand.length
  let magnitude := places + fraction.exponent
  if fraction.significand = [] then true
  else if magnitude < -45 then true
  else if -45 < magnitude then false
  else digitsValue fraction.significand * Nat.pow 2 150 ≤ Nat.pow 10 (places + 45)

/-- Whether a text is a number that is at most zero in single precision. -/
def isAtMostZero (chars : List Char) : Bool :=
  let (negative, magnitude) := unsigned chars
  match readFraction? magnitude with
  | some fraction => negative || fraction.vanishes
  | none =>
      let name := magnitude.map Char.toLower
      negative && (name == "inf".toList || name == "infinity".toList)

end HttpService.Text
