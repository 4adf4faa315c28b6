import KotlinBuilders.Decimal.Binary64
import KotlinBuilders.Text.Digits

/-!
# The shortest decimal of a number

A binary number is written with the fewest decimal digits that read back as it,
and among those with the nearest.  On the grid of decimals with a given number
of digits only the two neighbours of the number have to be tried: whatever lies
further away reads back only if one of them does.

A decimal is positional from `10 ^ -5` up to `10 ^ 16`; beyond, it has an
exponent, which always shows its sign.  A whole number keeps one zero after the
point.
-/

namespace KotlinBuilders

/-- The number `coefficient * 10 ^ power`. -/
structure Decimal where
  coefficient : Nat
  power : Int
  deriving DecidableEq, Repr

namespace Decimal

/-- The numerator and denominator of a decimal. -/
def quotient (decimal : Decimal) : Nat × Nat :=
  (decimal.coefficient * Nat.pow 10 decimal.power.toNat,
    Nat.pow 10 (-decimal.power).toNat)

/-- Whether a decimal reads back as a number. -/
def readsAs (decimal : Decimal) (number : Binary64) : Bool :=
  Binary64.ofQuotient decimal.quotient.1 decimal.quotient.2 == some number

/-- The number of decimal digits. -/
def digitCount (n : Nat) : Nat := (Nat.toDigits 10 n).length

/-- The power of ten of the leading digit of a positive quotient. -/
def leadingPower (numerator denominator : Nat) : Int :=
  if denominator ≤ numerator
    then (digitCount (numerator / denominator) : Int) - 1
  else -(digitCount ((denominator - 1) / numerator) : Int)

/-- The two neighbours of a quotient among the multiples of a power of ten, the
nearer one first; at equal distance the one with the even coefficient. -/
def neighbours (numerator denominator : Nat) (power : Int) : List Decimal :=
  let top := numerator * Nat.pow 10 (-power).toNat
  let bottom := denominator * Nat.pow 10 power.toNat
  let below := top / bottom
  let twice := 2 * (top % bottom)
  if twice < bottom ∨ (twice = bottom ∧ below % 2 = 0)
    then [⟨below, power⟩, ⟨below + 1, power⟩]
  else [⟨below + 1, power⟩, ⟨below, power⟩]

/-- The nearest decimal of the given number of digits that reads back as a
number. -/
def ofLength? (number : Binary64) (length : Nat) : Option Decimal :=
  let value := number.quotient
  let power := leadingPower value.1 value.2 - (length - 1 : Nat)
  (neighbours value.1 value.2 power).find? (·.readsAs number)

/-- Seventeen digits always read back. -/
def longest : Nat := 17

/-- The shortest decimal that reads back as a number; zero is itself. -/
def shortest (number : Binary64) : Decimal :=
  if number.significand = 0 then ⟨0, 0⟩
  else ((List.range longest).findSome? fun k =>
    ofLength? number (k + 1)).getD ⟨0, 0⟩

/-- The digits without the zeros at their end. -/
def significantDigits (decimal : Decimal) : List Char :=
  ((Nat.toDigits 10 decimal.coefficient).reverse.dropWhile (· == '0')).reverse

/-- The power of ten of the leading digit. -/
def exponent (decimal : Decimal) : Int :=
  (digitCount decimal.coefficient : Int) - 1 + decimal.power

/-- Digits with a point after the first one, if there are more. -/
def pointAfterFirst : List Char → List Char
  | [] => []
  | [digit] => [digit]
  | first :: rest => first :: '.' :: rest

/-- An exponent with its sign. -/
def exponentText (exponent : Int) : List Char :=
  (if exponent < 0 then '-' else '+') :: Nat.toDigits 10 exponent.natAbs

/-- Digits in positional notation, the first one at a given power of ten. -/
def positional (digits : List Char) (exponent : Int) : List Char :=
  if exponent < 0
    then '0' :: '.' :: List.replicate (exponent.natAbs - 1) '0' ++ digits
  else
    let whole := exponent.toNat + 1
    let padded := digits ++ List.replicate (whole - digits.length) '0'
    padded.take whole
    ++ '.' :: (if padded.length ≤ whole then ['0'] else padded.drop whole)

/-- A decimal in text. -/
def text (decimal : Decimal) : String :=
  let digits := decimal.significantDigits
  if decimal.coefficient = 0 then "0.0"
  else if -5 ≤ decimal.exponent ∧ decimal.exponent < 16 then
    String.ofList (positional digits decimal.exponent)
  else String.ofList
    (pointAfterFirst digits ++ 'e' :: exponentText decimal.exponent)

end Decimal

end KotlinBuilders
