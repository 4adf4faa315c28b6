/-!
# Binary floating point

The numbers that sixty-four bits hold, the sign left aside: a significand below
`2 ^ 53` times a power of two that is not below `2 ^ -1074`.  A quotient of
natural numbers is rounded to the nearest of them, a tie to the even
significand; what would have to be larger than all of them is refused.  A
product or quotient of two numbers is rounded once.
-/

namespace KotlinBuilders

/-- The number `significand * 2 ^ exponent`. -/
structure Binary64 where
  significand : Nat
  exponent : Int
  deriving DecidableEq, Repr

namespace Binary64

/-- The number of bits of a significand. -/
def precision : Nat := 53

/-- The smallest exponent. -/
def leastExponent : Int := -1074

/-- The largest exponent. -/
def greatestExponent : Int := 971

/-- Zero. -/
def zero : Binary64 := ⟨0, leastExponent⟩

/-- A quotient rounded to the nearest natural number, a tie to the even one. -/
def roundDiv (numerator denominator : Nat) : Nat :=
  let quotient := numerator / denominator
  let twice := 2 * (numerator % denominator)
  if twice < denominator ∨ (twice = denominator ∧ quotient % 2 = 0)
    then quotient else quotient + 1

/-- The numerator and denominator of a quotient divided by a power of two. -/
def shifted (numerator denominator : Nat) (exponent : Int) : Nat × Nat :=
  (numerator * Nat.pow 2 (-exponent).toNat,
    denominator * Nat.pow 2 exponent.toNat)

/-- The exponent at which a positive quotient is rounded: the one that leaves a
significand of full precision, and not less than the smallest. -/
def roundingExponent (numerator denominator : Nat) : Int :=
  let estimate :=
    max ((numerator.log2 : Int) - denominator.log2 - precision) leastExponent
  let scaled := shifted numerator denominator estimate
  if scaled.1 / scaled.2 < Nat.pow 2 precision then estimate else estimate + 1

/-- A number from a rounded significand, which may have grown to the next power
of two. -/
def normalized (significand : Nat) (exponent : Int) : Option Binary64 :=
  let number : Binary64 :=
    if significand < Nat.pow 2 precision then ⟨significand, exponent⟩
      else ⟨significand / 2, exponent + 1⟩
  if number.exponent ≤ greatestExponent then some number else none

/-- The number nearest to a quotient. -/
def ofQuotient (numerator denominator : Nat) : Option Binary64 :=
  if numerator = 0 then some zero
  else
    let exponent := roundingExponent numerator denominator
    let scaled := shifted numerator denominator exponent
    normalized (roundDiv scaled.1 scaled.2) exponent

/-- A natural number as a numerator over a denominator, the value of the
number. -/
def quotient (number : Binary64) : Nat × Nat :=
  (number.significand * Nat.pow 2 number.exponent.toNat,
    Nat.pow 2 (-number.exponent).toNat)

/-- The rounded product of two numbers. -/
def mul (a b : Binary64) : Option Binary64 :=
  ofQuotient (a.quotient.1 * b.quotient.1) (a.quotient.2 * b.quotient.2)

/-- The rounded quotient of two numbers, the second one positive. -/
def div (a b : Binary64) : Option Binary64 :=
  ofQuotient (a.quotient.1 * b.quotient.2) (a.quotient.2 * b.quotient.1)

/-- The number nearest to a power of ten. -/
def tenPow (k : Nat) : Option Binary64 := ofQuotient (Nat.pow 10 k) 1

end Binary64

end KotlinBuilders
