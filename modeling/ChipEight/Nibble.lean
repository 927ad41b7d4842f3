/-! Four-bit values, which number both the registers and the keys. -/

namespace ChipEight

/-- A value of four bits. -/
abbrev Nibble := Fin 16

namespace Nibble

/-- The lowest four bits of a number. -/
def ofNat (number : Nat) : Nibble :=
  ⟨number % 16, Nat.mod_lt _ (by decide)⟩

/-- The low half of a byte. -/
def ofByte (byte : UInt8) : Nibble :=
  ofNat byte.toNat

/-- All nibbles in ascending order. -/
def all : List Nibble :=
  List.finRange 16

/-- Every nibble is listed. -/
@[simp] theorem mem_all (nibble : Nibble) : nibble ∈ all :=
  List.mem_finRange nibble

/-- The lowest four bits of a number are its remainder by sixteen. -/
@[simp] theorem val_ofNat (number : Nat) : (ofNat number).val = number % 16 := rfl

/-- The low half of a byte is its remainder by sixteen. -/
@[simp] theorem val_ofByte (byte : UInt8) : (ofByte byte).val = byte.toNat % 16 := rfl

end Nibble

end ChipEight
