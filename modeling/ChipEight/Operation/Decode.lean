import ChipEight.Fault
import ChipEight.Operation

/-! The fields of an instruction word, and the instruction that they spell. -/

namespace ChipEight

/-- All readings of the bits of a word. -/
structure Fields where
  /-- The whole word. -/
  word : UInt16
  /-- The highest four bits, which name the family of the instruction. -/
  family : Nibble
  /-- The next four bits, which name a register. -/
  x : Register
  /-- The next four bits, which name a second register. -/
  y : Register
  /-- The lowest four bits. -/
  n : Nibble
  /-- The low byte. -/
  nn : UInt8
  /-- The lowest twelve bits, which name an address. -/
  nnn : Address
deriving DecidableEq

/-- Takes a word apart. -/
def Fields.ofWord (word : UInt16) : Fields where
  word
  family := Nibble.ofNat (word.toNat / 0x1000)
  x := Nibble.ofNat (word.toNat / 0x100)
  y := Nibble.ofNat (word.toNat / 0x10)
  n := Nibble.ofNat word.toNat
  nn := word.toUInt8
  nnn := Address.ofNat word.toNat

namespace Operation

/-- The instruction of the arithmetic family that the lowest four bits select. -/
def arithmetic? (x y : Register) : Nibble → Option Operation
  | 0x0 => some (copy x y)
  | 0x1 => some (or x y)
  | 0x2 => some (and x y)
  | 0x3 => some (xor x y)
  | 0x4 => some (add x y)
  | 0x5 => some (subtract x y)
  | 0x6 => some (shiftRight x y)
  | 0x7 => some (subtractFrom x y)
  | 0xE => some (shiftLeft x y)
  | _ => none

/-- The instruction of the device family that the low byte selects. -/
def device? (x : Register) : UInt8 → Option Operation
  | 0x07 => some (readDelay x)
  | 0x0A => some (awaitKey x)
  | 0x15 => some (setDelay x)
  | 0x18 => some (setSound x)
  | 0x1E => some (addIndex x)
  | 0x29 => some (glyph x)
  | 0x33 => some (digits x)
  | 0x55 => some (store x)
  | 0x65 => some (load x)
  | _ => none

/-- The instruction that the fields of a word spell, if there is one. -/
def ofFields? (fields : Fields) : Option Operation :=
  match fields.family with
  | 0x0 =>
    -- Of this family there are two words only.
    match fields.word with
    | 0x00E0 => some clear
    | 0x00EE => some ret
    | _ => none
  | 0x1 => some (jump fields.nnn)
  | 0x2 => some (call fields.nnn)
  | 0x3 => some (skipIfByte fields.x fields.nn)
  | 0x4 => some (skipUnlessByte fields.x fields.nn)
  | 0x5 => if fields.n.val = 0 then some (skipIfEqual fields.x fields.y) else none
  | 0x6 => some (setByte fields.x fields.nn)
  | 0x7 => some (addByte fields.x fields.nn)
  | 0x8 => arithmetic? fields.x fields.y fields.n
  | 0x9 => if fields.n.val = 0 then some (skipUnlessEqual fields.x fields.y) else none
  | 0xA => some (setIndex fields.nnn)
  | 0xB => some (jumpAhead fields.nnn)
  | 0xC => some (random fields.x fields.nn)
  | 0xD => some (draw fields.x fields.y fields.n)
  | 0xE =>
    match fields.nn with
    | 0x9E => some (skipIfDown fields.x)
    | 0xA1 => some (skipUnlessDown fields.x)
    | _ => none
  -- Only the sixteenth family is left.
  | _ => device? fields.x fields.nn

/-- The instruction of a word, or the fault of a word that is none. -/
def decode (word : UInt16) : Except Fault Operation :=
  match ofFields? (Fields.ofWord word) with
  | some operation => .ok operation
  | none => .error (.unknownWord word)

example : decode 0xD3A7 = .ok (draw 3 10 7) := rfl
example : decode 0x00E1 = .error (.unknownWord 0x00E1) := rfl

/-- Decoding fails only on a word that spells no instruction, and names that word. -/
theorem decode_eq_error_iff (word : UInt16) (fault : Fault) :
    decode word = .error fault ↔
      ofFields? (Fields.ofWord word) = none ∧ fault = .unknownWord word := by
  -- The fields either spell an instruction or they do not.
  cases spelled : ofFields? (Fields.ofWord word) <;> simp [decode, spelled, eq_comm]

end Operation

end ChipEight
