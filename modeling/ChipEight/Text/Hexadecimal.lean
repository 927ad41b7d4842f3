/-! Upper-case hexadecimal text with a least number of digits. -/

namespace ChipEight.Text

/-- The hexadecimal digits of a number, upper case and without leading zeros. -/
def hexDigits (value : Nat) : List Char :=
  (Nat.toDigits 16 value).map Char.toUpper

/-- A number written after `0x` in upper case, filled with zeros up to `width` digits. -/
def hexadecimal (width value : Nat) : String :=
  "0x" ++ String.ofList ((hexDigits value).leftpad width '0')

example : hexadecimal 4 0xE1 = "0x00E1" := by decide +kernel
example : hexadecimal 3 0x200 = "0x200" := by decide +kernel
example : hexadecimal 4 0x12FFF = "0x12FFF" := by decide +kernel

end ChipEight.Text
