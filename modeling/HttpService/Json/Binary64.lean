/-!
Contract: finite numbers in double precision, computed exactly.

Owns:
- rounding a ratio of natural numbers to the nearest number, ties to even;
- products and quotients, rounded once;
- the shortest decimal digits that read back as the same number.

Does not own: infinities, or how digits are laid out as text.
-/

namespace HttpService.Json

/-- A finite double: `± significand * 2 ^ exponent`, with the significand below
2^53 and the exponent at least -1074. -/
structure Binary64 where
  negative : Bool
  significand : Nat
  exponent : Int
deriving DecidableEq, Repr, Inhabited

namespace Binary64

/-- Least exponent of a significand. -/
def minExponent : Int := -1074

/-- Greatest exponent of a significand. -/
def maxExponent : Int := 971

def zero : Binary64 := ⟨false, 0, minExponent⟩

/-- The same number with the other sign. -/
def neg (x : Binary64) : Binary64 :=
  { x with negative := !x.negative }

/-- `num / den` rounded to the nearest integer, ties to even. -/
def roundDiv (num den : Nat) : Nat :=
  let quotient := num / den
  let rest := num % den
  if 2 * rest < den then quotient
  else if den < 2 * rest then quotient + 1
  else quotient + quotient % 2

/-- `num / (den * 2 ^ exponent)` as a ratio of natural numbers. -/
def unscale (num den : Nat) (exponent : Int) : Nat × Nat :=
  match exponent with
  | .ofNat n => (num, den * Nat.pow 2 n)
  | .negSucc n => (num * Nat.pow 2 (n + 1), den)

/-- The number nearest to `num / den`; `none` if it is too large. -/
def ofRatio? (num den : Nat) : Option Binary64 :=
  if num = 0 then some zero
  else
    let guess : Int := max minExponent ((num.log2 : Int) - (den.log2 : Int) - 53)
    let (scaledNum, scaledDen) := unscale num den guess
    let exponent := if scaledNum / scaledDen < Nat.pow 2 53 then guess else guess + 1
    let (num, den) := unscale num den exponent
    let rounded := roundDiv num den
    let (significand, exponent) :=
      if rounded = Nat.pow 2 53 then (Nat.pow 2 52, exponent + 1) else (rounded, exponent)
    if exponent > maxExponent then none else some ⟨false, significand, exponent⟩

/-- The number nearest to `num / den * 2 ^ exponent`. -/
def ofScaled? (num den : Nat) (exponent : Int) : Option Binary64 :=
  match exponent with
  | .ofNat n => ofRatio? (num * Nat.pow 2 n) den
  | .negSucc n => ofRatio? num (den * Nat.pow 2 (n + 1))

def mul? (x y : Binary64) : Option Binary64 :=
  ofScaled? (x.significand * y.significand) 1 (x.exponent + y.exponent)

/-- The rounded quotient of two magnitudes; the divisor is not zero. -/
def div? (x y : Binary64) : Option Binary64 :=
  ofScaled? x.significand y.significand (x.exponent - y.exponent)

/-- A decimal numeral: `digits * 10 ^ exponent`. -/
structure Decimal where
  digits : Nat
  exponent : Int
deriving DecidableEq, Repr

/-- The magnitudes that round to a number, in units of `2 ^ (exponent - 2)`:
lower end, the number, upper end. Below a power of two the step is half as wide. -/
def interval (x : Binary64) : Nat × Nat × Nat :=
  let value := 4 * x.significand
  let below := if x.significand = Nat.pow 2 52 ∧ x.exponent > minExponent then 1 else 2
  (value - below, value, value + 2)

/-- Whether `digits * 10 ^ place` reads back as `x`. The ends of the interval do
so iff the significand is even. -/
def readsBack (x : Binary64) (digits : Nat) (place : Int) : Bool :=
  let (low, _, high) := x.interval
  let unit := x.exponent - 2
  -- compare digits * 10^place with bound * 2^unit, both sides made integers
  let ten := match place with
    | .ofNat n => (Nat.pow 10 n, 1)
    | .negSucc n => (1, Nat.pow 10 (n + 1))
  let two := match unit with
    | .ofNat n => (Nat.pow 2 n, 1)
    | .negSucc n => (1, Nat.pow 2 (n + 1))
  let candidate := digits * ten.1 * two.2
  let bound := fun (end_ : Nat) => end_ * two.1 * ten.2
  if x.significand % 2 = 0 then bound low ≤ candidate && candidate ≤ bound high
  else bound low < candidate && candidate < bound high

/-- The multiple of `10 ^ place` nearest to `x` from below, and whether the next
one is nearer; a tie takes the even one. -/
def nearest (x : Binary64) (place : Int) : Nat × Bool :=
  let two := match x.exponent with
    | .ofNat n => (Nat.pow 2 n, 1)
    | .negSucc n => (1, Nat.pow 2 (n + 1))
  let ten := match place with
    | .ofNat n => (Nat.pow 10 n, 1)
    | .negSucc n => (1, Nat.pow 10 (n + 1))
  let num := x.significand * two.1 * ten.2
  let den := two.2 * ten.1
  (num / den, roundDiv num den ≠ num / den)

/-- The candidate of the grid `10 ^ place` that reads back as `x`, the nearer one first. -/
def candidate? (x : Binary64) (place : Int) : Option Decimal :=
  let (below, up) := x.nearest place
  let (first, second) := if up then (below + 1, below) else (below, below + 1)
  if x.readsBack first place then some ⟨first, place⟩
  else if x.readsBack second place then some ⟨second, place⟩
  else none

/-- The first grid, from coarse to fine, that has a candidate. -/
def firstCandidate (x : Binary64) (place : Int) : Nat → Decimal
  | 0 => ⟨(x.nearest place).1, place⟩
  | grids + 1 =>
      match x.candidate? place with
      | some decimal => decimal
      | none => firstCandidate x (place - 1) grids

/-- A decimal without trailing zeros. -/
def Decimal.strip (decimal : Decimal) : Nat → Decimal
  | 0 => decimal
  | fuel + 1 =>
      if decimal.digits ≠ 0 ∧ decimal.digits % 10 = 0 then
        strip ⟨decimal.digits / 10, decimal.exponent + 1⟩ fuel
      else decimal

/-- An upper bound for the decimal exponent of a magnitude. -/
def decimalMagnitude (x : Binary64) : Int :=
  let bits : Int := x.significand.log2 + x.exponent + 1
  bits * 30103 / 100000 + 2

/-- The shortest digits that read back as the number; of those the nearest. -/
def shortest (x : Binary64) : Decimal :=
  if x.significand = 0 then ⟨0, 0⟩
  else (firstCandidate x x.decimalMagnitude 24).strip 24

end Binary64

end HttpService.Json
