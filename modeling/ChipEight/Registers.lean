import ChipEight.Nibble
import ChipEight.Text.Hexadecimal

/-! The sixteen byte registers, the last of which also receives the flags of instructions. -/

namespace ChipEight

/-- The number of a register. -/
abbrev Register := Nibble

namespace Register

/-- The first register. -/
def first : Register := Nibble.ofNat 0

/-- The last register, which receives carries, borrows and collisions. -/
def flag : Register := Nibble.ofNat 15

/-- The registers from the first one through the given one. -/
def through (last : Register) : List Register :=
  Nibble.all.take (last.val + 1)

/-- The written name of a register, a `V` and one hexadecimal digit. -/
def name (register : Register) : String :=
  "V" ++ String.ofList (Text.hexDigits register.val)

example : name first = "V0" ∧ name flag = "VF" := by decide +kernel
example : through 2 = [0, 1, 2] := by decide

end Register

/-- The contents of the sixteen registers. -/
structure Registers where
  /-- One byte for each register. -/
  values : Vector UInt8 16
deriving DecidableEq

namespace Registers

/-- Registers that all hold zero. -/
def zero : Registers where
  values := Vector.replicate 16 0

/-- The byte in a register. -/
def read (registers : Registers) (register : Register) : UInt8 :=
  registers.values[register]

/-- Puts a byte into a register. -/
def write (registers : Registers) (register : Register) (byte : UInt8) : Registers where
  values := registers.values.set register byte

/-- Puts one or zero into the flag register. -/
def writeFlag (registers : Registers) (raised : Bool) : Registers :=
  registers.write Register.flag raised.toUInt8

/-- The bytes of the registers from the first one through the given one. -/
def block (registers : Registers) (last : Register) : List UInt8 :=
  last.through.map registers.read

/-- Puts bytes into the registers in order, beginning with the first register. -/
def writeBlock (registers : Registers) (bytes : List UInt8) : Registers :=
  (Nibble.all.zip bytes).foldl (fun filled pair => filled.write pair.1 pair.2) registers

/-- Registers that hold the same bytes are the same. -/
@[ext] theorem ext {first second : Registers}
    (same : ∀ register, first.read register = second.read register) : first = second := by
  -- Sixteen positions are all there is to compare.
  obtain ⟨left⟩ := first
  obtain ⟨right⟩ := second
  have : left = right := Vector.ext fun index within => same ⟨index, within⟩
  rw [this]

/-- Every register starts at zero. -/
@[simp] theorem read_zero (register : Register) : zero.read register = 0 := by
  -- Each entry of the replicated vector is the repeated byte.
  simp [zero, read]

/-- A write is seen in its own register and in no other. -/
theorem read_write (registers : Registers) (written read : Register) (byte : UInt8) :
    (registers.write written byte).read read =
      if written = read then byte else registers.read read := by
  -- Positions of the vector are compared as numbers.
  simp [Registers.read, write, Vector.getElem_set, Fin.ext_iff]

/-- A register reads back what was written to it. -/
@[simp] theorem read_write_self (registers : Registers) (register : Register) (byte : UInt8) :
    (registers.write register byte).read register = byte := by
  simp [read_write]

/-- A write is not seen in any other register. -/
theorem read_write_of_ne (registers : Registers) {written read : Register} (byte : UInt8)
    (apart : written ≠ read) : (registers.write written byte).read read = registers.read read := by
  rw [read_write, if_neg apart]

/-- Of two writes to a register the second one stands. -/
@[simp] theorem write_write_self (registers : Registers) (register : Register)
    (first second : UInt8) :
    (registers.write register first).write register second = registers.write register second := by
  -- Either the register is the one written or both writes pass it by.
  ext read
  by_cases same : register = read <;> simp [read_write, same]

/-- A block holds one byte more than the number of its last register. -/
@[simp] theorem length_block (registers : Registers) (last : Register) :
    (registers.block last).length = last.val + 1 := by
  -- Sixteen registers are enough for every block.
  simp only [block, Register.through, Nibble.all, List.length_map, List.length_take,
    List.length_finRange]
  omega

end Registers

end ChipEight
