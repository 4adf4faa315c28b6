/-!
# Numbers in digits

Reading and writing natural numbers in decimal digits.
-/

namespace KotlinBuilders.Text

/-- The number of a decimal digit. -/
def digitValue (c : Char) : Nat := c.toNat - '0'.toNat

/-- The number that digits write, most significant first, after digits of the
given value. -/
def decimalValueFrom (value : Nat) (digits : List Char) : Nat :=
  digits.foldl (fun value c => value * 10 + digitValue c) value

/-- The number that digits write, most significant first. -/
def decimalValue (digits : List Char) : Nat := decimalValueFrom 0 digits

/-- A number in decimal digits. -/
def decimal (n : Nat) : String := String.ofList (Nat.toDigits 10 n)

end KotlinBuilders.Text
