import ChipEight.ReturnStack
import ChipEight.Keypad
import ChipEight.Memory
import ChipEight.Random
import ChipEight.Registers
import ChipEight.Screen

/-! Everything that a program can see or change, at power-on, after a reset and between frames. -/

namespace ChipEight

/-- The parts of the machine, owned and reset together. -/
structure Hardware where
  /-- The memory shared by font, program and data. -/
  memory : Memory
  /-- The sixteen registers. -/
  registers : Registers
  /-- The address of the next word to fetch. -/
  pc : UInt16
  /-- The address that data instructions work on. -/
  index : UInt16
  /-- The pending return addresses. -/
  stack : ReturnStack
  /-- The timer that programs read. -/
  delay : UInt8
  /-- The timer that sounds while it runs. -/
  sound : UInt8
  /-- The screen. -/
  screen : Screen
  /-- The keys as the host set them. -/
  keypad : Keypad
  /-- The random source. -/
  random : Random
deriving DecidableEq

/-- A timer one tick later, at rest once it has reached zero. -/
def tickTimer (timer : UInt8) : UInt8 :=
  if timer = 0 then 0 else timer - 1

namespace Hardware

/-- All parts as they are at power-on, with the given random source. -/
def powerOn (random : Random) : Hardware where
  memory := Memory.powerOn
  registers := Registers.zero
  pc := UInt16.ofNat programStart
  index := 0
  stack := ReturnStack.empty
  delay := 0
  sound := 0
  screen := Screen.blank
  keypad := Keypad.released
  random

/-- All parts as at power-on, with a redraw asked for, the random source where it was and the
places of the call stack as they were left. -/
def reset (hardware : Hardware) : Hardware :=
  { powerOn hardware.random with
    stack := hardware.stack.clear
    screen := Screen.blank.askRedraw }

/-- Lets both timers tick once. -/
def tick (hardware : Hardware) : Hardware :=
  { hardware with delay := tickTimer hardware.delay, sound := tickTimer hardware.sound }

/-- The byte in a register. -/
def register (hardware : Hardware) (register : Register) : UInt8 :=
  hardware.registers.read register

/-- Puts a byte into a register. -/
def setRegister (hardware : Hardware) (register : Register) (byte : UInt8) : Hardware :=
  { hardware with registers := hardware.registers.write register byte }

/-- Puts a byte into a register and then a flag into the flag register, which wins. -/
def setFlagged (hardware : Hardware) (register : Register) (byte : UInt8) (flag : Bool) :
    Hardware :=
  { hardware with registers := (hardware.registers.write register byte).writeFlag flag }

/-- Passes over the next word if the condition holds. -/
def skipWhen (hardware : Hardware) (condition : Bool) : Hardware :=
  if condition then { hardware with pc := hardware.pc + 2 } else hardware

/-- An attempt at the call stack of the hardware. -/
def onStack (attempt : Attempt ReturnStack value) : Attempt Hardware value :=
  Attempt.inside Hardware.stack (fun hardware stack => { hardware with stack }) attempt

/-- An attempt at the memory of the hardware. -/
def onMemory (attempt : Attempt Memory value) : Attempt Hardware value :=
  Attempt.inside Hardware.memory (fun hardware memory => { hardware with memory }) attempt

/-- Draws the sprite at the index, read in full before any pixel changes. -/
def drawAtIndex (x y : UInt8) (height : Nat) : Attempt Hardware Bool := do
  let hardware ← get
  let bytes ← Attempt.ofExcept (hardware.memory.readBytes hardware.index height)
  let (screen, collided) := hardware.screen.draw x.toNat y.toNat bytes
  set { hardware with screen }
  return collided

/-- Draws several random bytes. -/
def drawRandom (hardware : Hardware) (count : Nat) : List UInt8 × Hardware :=
  let (bytes, random) := hardware.random.take count
  (bytes, { hardware with random })

/-- A reset keeps the random source. -/
@[simp] theorem random_reset (hardware : Hardware) : hardware.reset.random = hardware.random := by
  simp only [reset, powerOn]

/-- A reset depends on nothing but the random source and what the places of the call stack hold. -/
theorem reset_eq_of_random_eq {first second : Hardware} (random : first.random = second.random)
    (slots : first.stack.slots = second.stack.slots) : first.reset = second.reset := by
  -- No other part is carried over from before.
  simp only [reset, ReturnStack.clear, random, slots]

end Hardware

/-- A tick takes one off a timer, which stops at zero. -/
theorem toNat_tickTimer (timer : UInt8) : (tickTimer timer).toNat = timer.toNat - 1 := by
  -- Only at zero does the subtraction of words differ from that of numbers.
  unfold tickTimer
  split
  case isTrue rest => simp [rest]
  case isFalse running =>
    have positive : 1 ≤ timer := by
      rw [UInt8.le_iff_toNat_le]
      have : timer.toNat ≠ 0 := fun zero => running (UInt8.toNat_inj.mp zero)
      exact Nat.pos_of_ne_zero this
    rw [UInt8.toNat_sub_of_le _ _ positive]
    rfl

end ChipEight
