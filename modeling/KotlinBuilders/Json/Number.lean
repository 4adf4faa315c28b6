import KotlinBuilders.Decimal.Shortest
import KotlinBuilders.Json.Fault

/-!
# Numbers in a JSON text

No number is ever wanted, but one that stands where something else is wanted is
named in the refusal, an integer by its digits and any other number by its
shortest decimal.

Reading a number keeps a significand of sixty-four bits.  A digit that does not
fit any more is left out; one before the point raises the power of ten, and so
do all digits of the integer part after it, while each digit after the point
that still fits lowers it.  The number is then the significand, rounded, times
or divided by the power of ten, rounded.
-/

namespace KotlinBuilders.Json

/-- How the text of a word or a number ends: as one, at the end of the whole
text, or before a character that it cannot have. -/
inductive Ending where
  | complete
  | cut
  | broken
  deriving DecidableEq, Repr

/-- The text of a number, its digits as values. -/
structure NumberText where
  isNegative : Bool := false
  whole : List Nat := []
  fraction : Option (List Nat) := none
  exponent : Option (Bool × List Nat) := none
  ending : Ending := .complete
  deriving DecidableEq, Repr

/-- Whether a byte is a decimal digit. -/
def isDigit (b : UInt8) : Bool := 48 ≤ b && b ≤ 57

/-- The values of the digits that a text begins with, and the rest. -/
def scanDigits : List UInt8 → List Nat × List UInt8
  | [] => ([], [])
  | b :: rest =>
    if isDigit b then ((b.toNat - 48) :: (scanDigits rest).1,
      (scanDigits rest).2) else ([], b :: rest)

/-- Scanning digits leaves at most what it was given. -/
theorem length_scanDigits_le (text : List UInt8) :
    (scanDigits text).2.length ≤ text.length := by
  induction text with
  | nil => simp [scanDigits]
  | cons b rest ih =>
    unfold scanDigits
    split
    · exact Nat.le_succ_of_le ih
    · exact Nat.le_refl _

/-- How a number ends that wants a digit before the given text. -/
def missingDigit (rest : List UInt8) : Ending :=
  if rest.isEmpty then .cut else .broken

/-- Whether an exponent is negative, and the text after its sign. -/
def scanSign : List UInt8 → Bool × List UInt8
  | [] => (false, [])
  | b :: rest => if b = 45 then (true, rest) else if b = 43 then (false, rest)
      else (false, b :: rest)

/-- The number with the exponent that a text may begin with, and the rest. -/
def scanExponent (number : NumberText) : List UInt8 → NumberText × List UInt8
  | [] => (number, [])
  | b :: rest =>
    if b = 101 ∨ b = 69 then
      let sign := scanSign rest
      let digits := scanDigits sign.2
      if digits.1.isEmpty
        then ({ number with ending := missingDigit sign.2 }, sign.2)
      else ({ number with exponent := some (sign.1, digits.1) }, digits.2)
    else (number, b :: rest)

/-- The number with the fraction and exponent that a text may begin with, and
the rest. -/
def scanFraction (number : NumberText) : List UInt8 → NumberText × List UInt8
  | [] => (number, [])
  | b :: rest =>
    if b = 46 then
      let digits := scanDigits rest
      if digits.1.isEmpty
        then ({ number with ending := missingDigit rest }, rest)
      else scanExponent { number with fraction := some digits.1 } digits.2
    else scanExponent number (b :: rest)

/-- The number after a sign, and the rest.  A zero stands alone in front of the
point. -/
def scanMagnitude (number : NumberText) (text : List UInt8) :
    NumberText × List UInt8 :=
  let digits := scanDigits text
  match digits.1 with
  | [] => ({ number with ending := missingDigit text }, text)
  | 0 :: _ :: _ => ({ number with ending := .broken }, digits.2)
  | whole => scanFraction { number with whole } digits.2

/-- Scanning a sign leaves at most what it was given. -/
theorem length_scanSign_le (text : List UInt8) :
    (scanSign text).2.length ≤ text.length := by
  unfold scanSign
  repeat' split
  all_goals simp

/-- Scanning an exponent leaves at most what it was given. -/
theorem length_scanExponent_le (number : NumberText) (text : List UInt8) :
    (scanExponent number text).2.length ≤ text.length := by
  unfold scanExponent
  split
  · simp
  · next b rest =>
    have sign := length_scanSign_le rest
    have digits := length_scanDigits_le (scanSign rest).2
    dsimp only
    repeat' split
    all_goals simp only [List.length_cons]; omega

/-- Scanning a fraction leaves at most what it was given. -/
theorem length_scanFraction_le (number : NumberText) (text : List UInt8) :
    (scanFraction number text).2.length ≤ text.length := by
  unfold scanFraction
  split
  · simp
  · next b rest =>
    split
    · have digits := length_scanDigits_le rest
      dsimp only
      split
      · simp
      · have exponent := length_scanExponent_le
          { number with fraction := some (scanDigits rest).1 }
          (scanDigits rest).2
        simp only [List.length_cons]
        omega
    · exact length_scanExponent_le _ _

/-- Scanning a number without its minus leaves at most what it was given. -/
theorem length_scanMagnitude_le (number : NumberText) (text : List UInt8) :
    (scanMagnitude number text).2.length ≤ text.length := by
  have digits := length_scanDigits_le text
  unfold scanMagnitude
  dsimp only
  split
  · simp
  · exact digits
  · exact Nat.le_trans (length_scanFraction_le _ _) digits

/-- A number that begins with a digit takes it. -/
theorem length_scanMagnitude_cons_le (number : NumberText) {b : UInt8}
    (rest : List UInt8) (h : isDigit b = true) :
    (scanMagnitude number (b :: rest)).2.length ≤ rest.length := by
  have tail := length_scanDigits_le rest
  have digits : scanDigits (b :: rest)
      = ((b.toNat - 48) :: (scanDigits rest).1, (scanDigits rest).2) := by
    simp [scanDigits, h]
  unfold scanMagnitude
  rw [digits]
  dsimp only
  split
  · next none => simp at none
  · exact tail
  · exact Nat.le_trans (length_scanFraction_le _ _) tail

/-- The largest significand that is kept. -/
def greatestSignificand : Nat := Nat.pow 2 64 - 1

/-- The significand after as many of the digits as fit, and the number of digits
from the first one that does not. -/
def absorbWhole (significand : Nat) : List Nat → Nat × Nat
  | [] => (significand, 0)
  | digit :: digits =>
    if significand * 10 + digit ≤ greatestSignificand
      then absorbWhole (significand * 10 + digit) digits
    else (significand, (digit :: digits).length)

/-- The significand after as many of the digits as fit, and their number. -/
def absorbFraction (significand : Nat) : List Nat → Nat × Nat
  | [] => (significand, 0)
  | digit :: digits =>
    if significand * 10 + digit ≤ greatestSignificand then
      let absorbed := absorbFraction (significand * 10 + digit) digits
      (absorbed.1, absorbed.2 + 1)
    else (significand, 0)

/-- The number that digits write. -/
def digitsValue (digits : List Nat) : Nat :=
  digits.foldl (fun value digit => value * 10 + digit) 0

/-- The powers of ten that are applied at once. -/
def greatestPower : Nat := 308

/-- A number divided by a power of ten, at most `10 ^ 308` at a time. -/
def scaleDown (number : Binary64) (power : Nat) : Option Binary64 :=
  if power ≤ greatestPower then do
    let divisor ← Binary64.tenPow power
    number.div divisor
  else if number.significand = 0 then some Binary64.zero
  else do
    let divisor ← Binary64.tenPow greatestPower
    let quotient ← number.div divisor
    scaleDown quotient (power - greatestPower)
termination_by power
decreasing_by
  have : greatestPower = 308 := rfl
  omega

/-- A number times a power of ten; none, if it is out of range. -/
def scaleUp (number : Binary64) (power : Nat) : Option Binary64 :=
  if power ≤ greatestPower then do
    let factor ← Binary64.tenPow power
    number.mul factor
  else if number.significand = 0 then some Binary64.zero
  else none

/-- A significand times a power of ten. -/
def scale (significand : Nat) (power : Int) : Option Binary64 := do
  let number ← Binary64.ofQuotient significand 1
  if 0 ≤ power then scaleUp number power.toNat
    else scaleDown number power.natAbs

/-- The largest exponent that is looked at; beyond it, a number is zero or out
of range. -/
def greatestExponent : Nat := Nat.pow 2 31 - 1

namespace NumberText

/-- The magnitude of a number; none, if it is out of range. -/
def magnitude (number : NumberText) : Option Binary64 :=
  let whole := absorbWhole 0 number.whole
  let fraction := absorbFraction whole.1 (number.fraction.getD [])
  let power : Int := whole.2 - fraction.2
  match number.exponent with
  | none => scale fraction.1 power
  | some (isNegative, digits) =>
    if digitsValue digits ≤ greatestExponent then
      scale fraction.1 (if isNegative then power - digitsValue digits
        else power + digitsValue digits)
    else if fraction.1 = 0 ∨ isNegative then some Binary64.zero
    else none

/-- The sign in text. -/
def sign (number : NumberText) : String := if number.isNegative then "-" else ""

/-- Whether a number is an integer of sixty-four bits; negative zero is none. -/
def isInteger (number : NumberText) : Bool :=
  let value := digitsValue number.whole
  number.fraction.isNone && number.exponent.isNone
    && if number.isNegative then value != 0 && value ≤ Nat.pow 2 63
      else value ≤ greatestSignificand

/-- What a complete number is called in a refusal; none, if it is out of
range. -/
def found? (number : NumberText) : Option Found :=
  if number.isInteger then
    some (.integer (number.sign ++ Text.decimal (digitsValue number.whole)))
  else number.magnitude.map fun magnitude =>
    .floating (number.sign ++ (Decimal.shortest magnitude).text)

/-- The fault of a number where something else is wanted. -/
def faultWhere (number : NumberText) (wanted : String) : Fault :=
  match number.ending with
  | .complete =>
    match number.found? with
    | some found => .invalidType found wanted
    | none => .numberOutOfRange
  | .cut => .valueCut
  | .broken => .invalidNumber

/-- The fault of a number that is skipped, if it has one. -/
def faultSkipped? (number : NumberText) : Option Fault :=
  if number.ending = .complete then none else some .invalidNumber

end NumberText

end KotlinBuilders.Json
