import ChipEight.Registers

/-! The thirty-four instructions of the machine with their operands and mnemonics. -/

namespace ChipEight

/-- The addresses that an instruction can name, which are those of memory. -/
abbrev Address := Fin 4096

/-- The lowest twelve bits of a number. -/
def Address.ofNat (number : Nat) : Address :=
  ⟨number % 4096, Nat.mod_lt _ (by decide)⟩

/-- One instruction, a constructor for each known kind of word. -/
inductive Operation where
  /-- Word `00E0` darkens the screen. -/
  | clear
  /-- Word `00EE` goes back to the latest return address. -/
  | ret
  /-- Words `1nnn` continue at an address. -/
  | jump (target : Address)
  /-- Words `2nnn` continue at an address and remember where to return. -/
  | call (target : Address)
  /-- Words `3xnn` skip a word if a register holds a byte. -/
  | skipIfByte (x : Register) (byte : UInt8)
  /-- Words `4xnn` skip a word unless a register holds a byte. -/
  | skipUnlessByte (x : Register) (byte : UInt8)
  /-- Words `5xy0` skip a word if two registers agree. -/
  | skipIfEqual (x y : Register)
  /-- Words `6xnn` set a register. -/
  | setByte (x : Register) (byte : UInt8)
  /-- Words `7xnn` add to a register and leave the flag. -/
  | addByte (x : Register) (byte : UInt8)
  /-- Words `8xy0` copy a register. -/
  | copy (x y : Register)
  /-- Words `8xy1` join two registers bit by bit. -/
  | or (x y : Register)
  /-- Words `8xy2` mask a register by another. -/
  | and (x y : Register)
  /-- Words `8xy3` combine two registers by exclusive or. -/
  | xor (x y : Register)
  /-- Words `8xy4` add a register to another, with the carry as flag. -/
  | add (x y : Register)
  /-- Words `8xy5` subtract the second register from the first, with no borrow as flag. -/
  | subtract (x y : Register)
  /-- Words `8xy6` halve the second register into the first, with the lost bit as flag. -/
  | shiftRight (x y : Register)
  /-- Words `8xy7` subtract the first register from the second, with no borrow as flag. -/
  | subtractFrom (x y : Register)
  /-- Words `8xyE` double the second register into the first, with the lost bit as flag. -/
  | shiftLeft (x y : Register)
  /-- Words `9xy0` skip a word unless two registers agree. -/
  | skipUnlessEqual (x y : Register)
  /-- Words `Annn` set the index. -/
  | setIndex (address : Address)
  /-- Words `Bnnn` continue an address and the first register ahead. -/
  | jumpAhead (offset : Address)
  /-- Words `Cxnn` set a register to a masked random byte. -/
  | random (x : Register) (mask : UInt8)
  /-- Words `Dxyn` draw a sprite, with the collision as flag. -/
  | draw (x y : Register) (height : Nibble)
  /-- Words `Ex9E` skip a word if a key is down. -/
  | skipIfDown (x : Register)
  /-- Words `ExA1` skip a word unless a key is down. -/
  | skipUnlessDown (x : Register)
  /-- Words `Fx07` read the delay timer. -/
  | readDelay (x : Register)
  /-- Words `Fx0A` repeat themselves until a key is down. -/
  | awaitKey (x : Register)
  /-- Words `Fx15` set the delay timer. -/
  | setDelay (x : Register)
  /-- Words `Fx18` set the sound timer. -/
  | setSound (x : Register)
  /-- Words `Fx1E` add a register to the index. -/
  | addIndex (x : Register)
  /-- Words `Fx29` set the index to the glyph of a digit. -/
  | glyph (x : Register)
  /-- Words `Fx33` store the three decimal digits of a register. -/
  | digits (x : Register)
  /-- Words `Fx55` store a block of registers. -/
  | store (last : Register)
  /-- Words `Fx65` load a block of registers. -/
  | load (last : Register)
deriving DecidableEq, Repr

/-- The short name under which an instruction is journalled. -/
def Operation.mnemonic : Operation → String
  | clear => "CLS"
  | ret => "RET"
  | jump _ => "JP"
  | call _ => "CALL"
  | skipIfByte _ _ | skipIfEqual _ _ => "SE"
  | skipUnlessByte _ _ | skipUnlessEqual _ _ => "SNE"
  | setByte _ _ | copy _ _ => "LD"
  | addByte _ _ | add _ _ => "ADD"
  | or _ _ => "OR"
  | and _ _ => "AND"
  | xor _ _ => "XOR"
  | subtract _ _ => "SUB"
  | shiftRight _ _ => "SHR"
  | subtractFrom _ _ => "SUBN"
  | shiftLeft _ _ => "SHL"
  | setIndex _ => "LD I"
  | jumpAhead _ => "JP V0"
  | random _ _ => "RND"
  | draw _ _ _ => "DRW"
  | skipIfDown _ => "SKP"
  | skipUnlessDown _ => "SKNP"
  | readDelay _ | setDelay _ => "LD DT"
  | awaitKey _ => "LD K"
  | setSound _ => "LD ST"
  | addIndex _ => "ADD I"
  | glyph _ => "LD F"
  | digits _ => "LD B"
  | store _ => "LD [I]"
  | load _ => "LD V"

end ChipEight
