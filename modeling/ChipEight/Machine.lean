import ChipEight.Operation.Effect
import ChipEight.Journal
import ChipEight.Rom.Source

/-! The machine, hardware that runs instruction by instruction until a fault stops it. -/

namespace ChipEight

/-- Whether a machine goes on or was stopped by a fault. -/
inductive Run where
  /-- The next cycle will be carried out. -/
  | running
  /-- A fault stopped the program, which only a reset or a new image overcomes. -/
  | halted (fault : Fault)
deriving DecidableEq, Repr

/-- Whether the next cycle will be carried out. -/
def Run.isRunning : Run → Bool
  | running => true
  | halted _ => false

/-- Hardware together with whether it goes on. -/
structure Machine where
  /-- All that the program sees and changes. -/
  hardware : Hardware
  /-- Whether the next cycle will be carried out. -/
  run : Run
deriving DecidableEq

/-- Takes the word at the program counter and passes it. -/
def Hardware.fetch : Attempt Hardware UInt16 := do
  let hardware ← get
  -- Both bytes have to be in memory before the counter moves on.
  if 4096 ≤ hardware.pc.toNat + 1 then
    throw (.counterOutside hardware.pc)
  let bytes ← Attempt.ofExcept (hardware.memory.readBytes hardware.pc 2)
  set { hardware with pc := hardware.pc + 2 }
  return Memory.bigEndian bytes

namespace Machine

/-- The machine at power-on with the random source of a seed. -/
def powerOn (seed : UInt64) : Machine where
  hardware := Hardware.powerOn (Random.ofSeed seed)
  run := .running

/-- Whether the sound timer is on. -/
def sounding (machine : Machine) : Bool :=
  machine.hardware.sound != 0

/-- Goes back to power-on and runs again. -/
def reset (machine : Machine) : Machine × Journal :=
  ({ hardware := machine.hardware.reset, run := .running }, [.reset])

/-- Resets the machine and copies a program image to its memory. -/
def insert (machine : Machine) (rom : Rom) : Except Fault Unit × Machine × Journal :=
  let (fresh, lines) := machine.reset
  match (Hardware.onMemory (Memory.loadRom rom.bytes)).run fresh.hardware with
  | .error fault hardware => (.error fault, { fresh with hardware }, lines)
  | .ok _ hardware => (.ok (), { fresh with hardware }, lines ++ [.loaded rom.bytes.length])

/-- The machine that a fault stops with the hardware as it then stands. -/
def halt (hardware : Hardware) (fault : Fault) : Machine × Journal :=
  ({ hardware, run := .halted fault }, [.halted hardware.pc fault])

/-- Fetches, decodes and carries out one instruction, halting at the first fault. -/
def advance (hardware : Hardware) : Machine × Journal :=
  match Hardware.fetch.run hardware with
  | .error fault stuck => halt stuck fault
  | .ok word passed =>
    match Operation.decode word with
    | .error fault => halt passed fault
    | .ok operation =>
      -- The line names the address that the word was fetched from.
      let entry := JournalEntry.executing hardware.pc word operation
      match operation.effect.run passed with
      | .error fault stuck =>
        let (halted, lines) := halt stuck fault
        (halted, entry :: lines)
      | .ok _ changed => ({ hardware := changed, run := .running }, [entry])

/-- One cycle of a running machine, and nothing for a halted one. -/
def step (machine : Machine) : Machine × Journal :=
  match machine.run with
  | .running => advance machine.hardware
  | .halted _ => (machine, [])

/-- Steps up to `count` times while the machine runs, adding to the reversed journal. -/
def stepsOnto (reversed : Journal) : Nat → Machine → Machine × Journal
  | 0, machine => (machine, reversed)
  | count + 1, machine =>
    if machine.run.isRunning then
      let (next, lines) := machine.step
      stepsOnto (lines.reverse ++ reversed) count next
    else
      (machine, reversed)

/-- Carries out up to `count` cycles, fewer if the machine halts. -/
def frame (machine : Machine) (count : Nat) : Machine × Journal :=
  let (final, reversed) := stepsOnto [] count machine
  (final, reversed.reverse)

/-- Lets both timers tick, whether or not the machine runs. -/
def tick (machine : Machine) : Machine :=
  { machine with hardware := machine.hardware.tick }

/-- Changes the keys as the host wishes. -/
def setKeys (machine : Machine) (event : Keypad.Event) : Machine :=
  { machine with hardware.keypad := machine.hardware.keypad.apply event }

/-- Changes the screen as the host wishes. -/
def setScreen (machine : Machine) (event : Screen.Event) : Machine :=
  { machine with hardware.screen := machine.hardware.screen.apply event }

/-- The copy into the memory of a machine that has been reset meets no fault. -/
theorem run_loadRom_reset (machine : Machine) (rom : Rom) :
    (Hardware.onMemory (Memory.loadRom rom.bytes)).run machine.reset.1.hardware =
      .ok () { machine.hardware.reset with
        memory := Memory.powerOn.overlay programStart rom.bytes } := by
  -- The size has been checked before, and the image ends where memory does at the latest.
  have copied := Memory.powerOn.run_loadRom_of_le rom.fits
  have memory : machine.reset.1.hardware.memory = Memory.powerOn := rfl
  rw [Hardware.onMemory, Attempt.run_inside, memory, copied]
  rfl

/-- A program image that fits is always placed. -/
theorem insert_eq (machine : Machine) (rom : Rom) :
    machine.insert rom =
      (.ok (),
        ⟨{ machine.hardware.reset with memory := Memory.powerOn.overlay programStart rom.bytes },
          .running⟩,
        [.reset, .loaded rom.bytes.length]) := by
  -- Neither the copy nor anything before it can fail.
  simp only [insert, run_loadRom_reset]
  rfl

/-- A halted machine takes no step. -/
theorem step_of_halted {machine : Machine} {fault : Fault} (stopped : machine.run = .halted fault) :
    machine.step = (machine, []) := by
  -- The run alone decides whether a cycle is carried out.
  simp [step, stopped]

/-- The journal handed over to the steps stays below what they add. -/
theorem stepsOnto_eq (reversed : Journal) (count : Nat) (machine : Machine) :
    stepsOnto reversed count machine =
      ((stepsOnto [] count machine).1, (stepsOnto [] count machine).2 ++ reversed) := by
  -- Both sides put the lines of the first step on top of the handed journal.
  induction count generalizing reversed machine with
  | zero => rfl
  | succ count ih =>
    simp only [stepsOnto]
    split
    · rw [ih, ih (machine.step.2.reverse ++ [])]
      simp
    · rfl

/-- A frame without cycles changes nothing. -/
@[simp] theorem frame_zero (machine : Machine) : machine.frame 0 = (machine, []) := rfl

/-- A longer frame is a step followed by the rest of the frame. -/
theorem frame_succ (machine : Machine) (count : Nat) :
    machine.frame (count + 1) =
      ((machine.step.1.frame count).1, machine.step.2 ++ (machine.step.1.frame count).2) := by
  -- A halted machine ends the frame at once, which its empty steps do as well.
  cases running : machine.run with
  | running =>
    simp only [frame, stepsOnto, running, Run.isRunning, ite_true]
    rw [stepsOnto_eq]
    simp
  | halted fault =>
    rw [step_of_halted running]
    simp only [frame, List.nil_append]
    cases count <;> simp [stepsOnto, running, Run.isRunning]

/-- A halted machine takes no frame, however long. -/
theorem frame_of_halted {machine : Machine} {fault : Fault} (stopped : machine.run = .halted fault)
    (count : Nat) : machine.frame count = (machine, []) := by
  induction count with
  | zero => rfl
  | succ count ih => rw [frame_succ, step_of_halted stopped, ih]; rfl

end Machine

end ChipEight
