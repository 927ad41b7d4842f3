/-! Decimal numerals below two to the sixty-fourth power, as options take them. -/

namespace ChipEight.CommandLine

/-- The digits of a numeral, which may begin with a plus sign. -/
def unsignedDigits : List Char → List Char
  | '+' :: digits => digits
  | digits => digits

/-- The number that decimal digits spell. -/
def decimalValue (digits : List Char) : Nat :=
  digits.foldl (fun value digit => 10 * value + (digit.toNat - '0'.toNat)) 0

/-- The number of a numeral, unless it has no digits, other characters or too large a value. -/
def numeral? (text : String) : Option UInt64 :=
  let digits := unsignedDigits text.toList
  let value := decimalValue digits
  if !digits.isEmpty && digits.all Char.isDigit && value < UInt64.size then
    some (UInt64.ofNat value)
  else
    none

example : numeral? "+007" = some 7 := by decide +kernel
example : numeral? "" = none ∧ numeral? "+" = none ∧ numeral? "-1" = none := by decide +kernel
example : numeral? "18446744073709551615" = some 18446744073709551615 := by decide +kernel
example : numeral? "18446744073709551616" = none := by decide +kernel

end ChipEight.CommandLine
