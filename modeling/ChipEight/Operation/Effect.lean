import ChipEight.Operation.Decode
import ChipEight.Hardware

/-! What each instruction does to the hardware, every check made before any change. -/

namespace ChipEight.Operation

/-- The hundreds, tens and units of a byte. -/
def decimalDigits (byte : UInt8) : List UInt8 :=
  [byte / 100, byte / 10 % 10, byte % 10]

/-- What an instruction does to the hardware once its word has been passed. -/
def effect (operation : Operation) : Attempt Hardware Unit :=
  match operation with
  | clear => modify fun hardware => { hardware with screen := hardware.screen.clear }
  | ret => do
    let address ← Hardware.onStack ReturnStack.pop
    modify fun hardware => { hardware with pc := address }
  | jump target => modify fun hardware => { hardware with pc := UInt16.ofNat target.val }
  | call target => do
    -- A full stack is noticed before the jump.
    let hardware ← get
    Hardware.onStack (ReturnStack.push hardware.pc)
    modify fun hardware => { hardware with pc := UInt16.ofNat target.val }
  | skipIfByte x byte => modify fun hardware =>
    hardware.skipWhen (hardware.register x == byte)
  | skipUnlessByte x byte => modify fun hardware =>
    hardware.skipWhen (hardware.register x != byte)
  | skipIfEqual x y => modify fun hardware =>
    hardware.skipWhen (hardware.register x == hardware.register y)
  | setByte x byte => modify fun hardware => hardware.setRegister x byte
  | addByte x byte => modify fun hardware =>
    hardware.setRegister x (hardware.register x + byte)
  | copy x y => modify fun hardware => hardware.setRegister x (hardware.register y)
  -- From here on the flag is written last, so that it stays where the result is in its register.
  | or x y => modify fun hardware =>
    hardware.setFlagged x (hardware.register x ||| hardware.register y) false
  | and x y => modify fun hardware =>
    hardware.setFlagged x (hardware.register x &&& hardware.register y) false
  | xor x y => modify fun hardware =>
    hardware.setFlagged x (hardware.register x ^^^ hardware.register y) false
  | add x y => modify fun hardware =>
    let carried := 256 ≤ (hardware.register x).toNat + (hardware.register y).toNat
    hardware.setFlagged x (hardware.register x + hardware.register y) carried
  | subtract x y => modify fun hardware =>
    let whole := hardware.register y ≤ hardware.register x
    hardware.setFlagged x (hardware.register x - hardware.register y) whole
  | shiftRight x y => modify fun hardware =>
    let lost := (hardware.register y).toNat.testBit 0
    hardware.setFlagged x (hardware.register y >>> 1) lost
  | subtractFrom x y => modify fun hardware =>
    let whole := hardware.register x ≤ hardware.register y
    hardware.setFlagged x (hardware.register y - hardware.register x) whole
  | shiftLeft x y => modify fun hardware =>
    let lost := (hardware.register y).toNat.testBit 7
    hardware.setFlagged x (hardware.register y <<< 1) lost
  | skipUnlessEqual x y => modify fun hardware =>
    hardware.skipWhen (hardware.register x != hardware.register y)
  | setIndex address => modify fun hardware =>
    { hardware with index := UInt16.ofNat address.val }
  | jumpAhead offset => modify fun hardware =>
    let distance := UInt16.ofNat offset.val + (hardware.register Register.first).toUInt16
    { hardware with pc := hardware.pc + distance }
  | random x mask => modify fun hardware =>
    let (byte, moved) := hardware.random.next
    -- Every draw of a byte moves the source on, whatever is masked out.
    { hardware with random := moved }.setRegister x (byte &&& mask)
  | draw x y height => do
    -- The coordinates are read before the flag can change them.
    let hardware ← get
    let collided ←
      Hardware.drawAtIndex (hardware.register x) (hardware.register y) height.val
    modify fun hardware =>
      { hardware with registers := hardware.registers.writeFlag collided }
  | skipIfDown x => modify fun hardware =>
    -- Only the low digit of a register names a key.
    let key := Nibble.ofByte (hardware.register x)
    hardware.skipWhen (hardware.keypad.isDown key)
  | skipUnlessDown x => modify fun hardware =>
    let key := Nibble.ofByte (hardware.register x)
    hardware.skipWhen (!hardware.keypad.isDown key)
  | readDelay x => modify fun hardware => hardware.setRegister x hardware.delay
  | awaitKey x => modify fun hardware =>
    match hardware.keypad.first? with
    | some key => hardware.setRegister x (UInt8.ofNat key.val)
    -- Going back by one word repeats the instruction.
    | none => { hardware with pc := hardware.pc - 2 }
  | setDelay x => modify fun hardware => { hardware with delay := hardware.register x }
  | setSound x => modify fun hardware => { hardware with sound := hardware.register x }
  | addIndex x => modify fun hardware =>
    let sum := hardware.index.toNat + (hardware.register x).toNat
    -- Passing the last address raises the flag, and nothing here lowers it.
    let registers := if 0xFFF < sum then hardware.registers.writeFlag true else hardware.registers
    { hardware with index := UInt16.ofNat sum, registers }
  | glyph x => modify fun hardware =>
    let digit := Nibble.ofByte (hardware.register x)
    { hardware with index := UInt16.ofNat (Font.start + Font.height * digit.val) }
  | digits x => do
    let hardware ← get
    Hardware.onMemory (Memory.writeBytes hardware.index (decimalDigits (hardware.register x)))
  | store last => do
    let hardware ← get
    Hardware.onMemory (Memory.writeBytes hardware.index (hardware.registers.block last))
    modify fun hardware =>
      { hardware with index := hardware.index + UInt16.ofNat (last.val + 1) }
  | load last => do
    let hardware ← get
    -- All bytes are had before the first register changes.
    let bytes ← Attempt.ofExcept (hardware.memory.readBytes hardware.index (last.val + 1))
    modify fun hardware => { hardware with registers := hardware.registers.writeBlock bytes }
    modify fun hardware =>
      { hardware with index := hardware.index + UInt16.ofNat (last.val + 1) }

/-- Carries out the instruction that a word spells, without fetching it. -/
def obey (word : UInt16) : Attempt Hardware Unit := do
  let operation ← Attempt.ofExcept (decode word)
  operation.effect

end ChipEight.Operation
