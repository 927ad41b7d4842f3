import ChipEight.Machine.Event
import ChipEight.Proofs.Machine.Halt
import ChipEight.Proofs.Operation.Reckoning

/-! The bounds that hold in every machine that a host can bring about. -/

namespace ChipEight

/-- The faults for which a program is stopped, as precisely as a machine can tell them. -/
inductive Fault.Stops : Fault → Prop
  /-- All sixteen places of the call stack were taken. -/
  | tooManyCalls : Stops (.tooManyCalls 16)
  /-- No call was pending. -/
  | noPendingCall : Stops .noPendingCall
  /-- A word spells no instruction. -/
  | unknownWord (word : UInt16)
    (unspelt : ∀ operation : Operation, operation.code ≠ word.toNat) : Stops (.unknownWord word)
  /-- The address lies past the end of memory. -/
  | outsideMemory (address : Nat) (outside : 4096 ≤ address) : Stops (.outsideMemory address)
  /-- There is no room for a word at the program counter. -/
  | counterOutside (pc : UInt16) (late : 0x0FFF ≤ pc.toNat) : Stops (.counterOutside pc)

/-- Whatever halts a cycle is a fault for which programs are stopped. -/
theorem Hardware.HaltedBy.stops {hardware : Hardware} {fault : Fault}
    (reason : hardware.HaltedBy fault) : fault.Stops := by
  -- Each reason brings along what its fault tells.
  cases reason with
  | counter late => exact .counterOutside _ late
  | word room unspelt => exact .unknownWord _ unspelt
  | ret room spelt empty => exact .noPendingCall
  | call room target spelt full => exact .tooManyCalls
  | draw room x y height spelt outside => exact .outsideMemory _ (Nat.le_max_right ..)
  | digits room x spelt outside => exact .outsideMemory _ (Nat.le_max_right ..)
  | block room last spelt outside => exact .outsideMemory _ (Nat.le_max_right ..)

namespace Machine

/-- The bounds on what moves about in a machine. -/
structure Sound (machine : Machine) : Prop where
  /-- The program counter is at most the farthest jump ahead from the end of memory. -/
  counter : machine.hardware.pc.toNat ≤ 0x20FE
  /-- Every pending return address follows a word in memory. -/
  returns : ∀ address ∈ machine.hardware.stack.toList,
    0x0002 ≤ address.toNat ∧ address.toNat ≤ 0x1000
  /-- A halted machine was stopped by a fault of its program. -/
  cause : ∀ fault : Fault, machine.run = .halted fault → fault.Stops

/-- A machine about to run its program from the start is sound. -/
theorem sound_of_start {machine : Machine}
    (counter : machine.hardware.pc = UInt16.ofNat programStart)
    (calls : machine.hardware.stack.toList = []) (run : machine.run = .running) :
    machine.Sound where
  -- No call is pending and nothing has failed yet.
  counter := by
    rw [counter]
    decide
  returns := by
    intro address listed
    rw [calls] at listed
    cases listed
  cause := by
    intro fault halted
    rw [run] at halted
    cases halted

/-- What touches neither the counter, the calls nor the run keeps a machine sound. -/
theorem Sound.of_eq {machine changed : Machine} (sound : machine.Sound)
    (counter : changed.hardware.pc = machine.hardware.pc)
    (calls : changed.hardware.stack.toList = machine.hardware.stack.toList)
    (run : changed.run = machine.run) : changed.Sound where
  -- Each bound is about one of the three parts that are the same.
  counter := by
    rw [counter]
    exact sound.counter
  returns := by
    rw [calls]
    exact sound.returns
  cause := by
    rw [run]
    exact sound.cause

end Machine

namespace Operation

/-- No instruction leads farther than a jump ahead from the end of memory. -/
theorem continuation_le {operation : Operation} {hardware : Hardware}
    (below : hardware.pc.toNat ≤ 0x1000)
    (returns : ∀ address ∈ hardware.stack.toList, address.toNat ≤ 0x1000) :
    operation.continuation hardware ≤ 0x20FE := by
  -- Apart from the jump ahead an instruction leads to an operand, a return address or nearby.
  cases operation with
  | ret =>
    simp only [continuation]
    -- Without any return address the continuation is taken to be zero.
    cases latest : hardware.stack.toList.getLast? with
    | none => simp
    | some address =>
      have bound := returns address (List.mem_of_getLast? latest)
      simp only [Option.getD_some]
      omega
  -- An operand of twelve bits is far below the bound.
  | jump target | call target =>
    simp only [continuation]
    omega
  -- The farthest jump ahead adds the greatest operand and the greatest byte to the end of memory.
  | jumpAhead offset =>
    have byte := (hardware.register Register.first).toNat_lt
    simp only [continuation]
    omega
  | awaitKey x =>
    simp only [continuation]
    split <;> omega
  | _ =>
    simp only [continuation]
    split <;> omega

/-- A call leaves the address behind itself, and no other instruction leaves a new one. -/
theorem mem_of_mem_pending {operation : Operation} {hardware : Hardware} {address : UInt16}
    (listed : address ∈ operation.pending hardware) :
    address ∈ hardware.stack.toList ∨ address = hardware.pc := by
  -- A return only takes an address off, and a call only adds its own.
  cases operation with
  | ret => exact .inl (hardware.stack.toList.dropLast_subset listed)
  | call target =>
    -- Either the address was listed before, or the call has just added it.
    rcases List.mem_append.mp listed with earlier | latest
    · exact .inl earlier
    · exact .inr (List.mem_singleton.mp latest)
  | _ => exact .inl listed

end Operation

namespace Machine

/-- A cycle keeps a machine sound. -/
theorem Sound.cycle {machine : Machine} {outcome : Machine × Journal} (sound : machine.Sound)
    (cycle : machine.hardware.Cycle outcome) : outcome.1.Sound := by
  -- Unless an instruction is carried out nothing but the counter has moved, by two at most.
  have cause : ∀ fault : Fault, outcome.1.run = .halted fault → fault.Stops := by
    intro fault halted
    exact (cycle.haltedBy halted).stops
  cases cycle with
  | unfetched late => exact ⟨sound.counter, sound.returns, cause⟩
  | unread room unknown =>
    have moved := Hardware.toNat_pc_passed room
    exact ⟨by simp only; omega, sound.returns, cause⟩
  | stopped room read obstacle =>
    have moved := Hardware.toNat_pc_passed room
    exact ⟨by simp only; omega, sound.returns, cause⟩
  | @done room operation after read obstacle carriedOut =>
    -- The fetch leaves the counter behind a word in memory, where a call will return to.
    have moved := Hardware.toNat_pc_passed room
    obtain ⟨continued, calls⟩ :=
      Operation.control_of_effect (by omega) (by omega) carriedOut
    refine ⟨?_, ?_, cause⟩
    -- A return leads to an address that the invariant bounds, which is why it is part of it.
    · show after.pc.toNat ≤ 0x20FE
      rw [continued]
      exact Operation.continuation_le (by omega) fun address listed =>
        (sound.returns address listed).2
    · -- A call adds the address behind its own word, and all others were pending before.
      intro address listed
      have listed : address ∈ after.stack.toList := listed
      rw [calls] at listed
      rcases Operation.mem_of_mem_pending listed with earlier | latest
      · exact sound.returns address earlier
      · rw [latest]
        omega

/-- A step keeps a machine sound. -/
theorem Sound.step {machine : Machine} (sound : machine.Sound) : machine.step.1.Sound := by
  -- A halted machine stays as it is.
  cases running : machine.run with
  | running => exact sound.cycle (cycle_step running)
  | halted fault =>
    rw [step_of_halted running]
    exact sound

/-- A frame keeps a machine sound, however many cycles it has. -/
theorem Sound.frame {machine : Machine} (sound : machine.Sound) (count : Nat) :
    (machine.frame count).1.Sound := by
  -- The first cycle of a frame is a step, and the others make up a shorter frame.
  induction count generalizing machine with
  | zero => exact sound
  | succ count ih =>
    rw [frame_succ]
    exact ih sound.step

/-- After a reset a machine is sound, whatever it was before. -/
theorem sound_reset (machine : Machine) : machine.reset.1.Sound :=
  sound_of_start rfl machine.hardware.stack.toList_clear rfl

/-- Placing a program image keeps a machine sound, and so does failing to have one. -/
theorem Sound.loadResult {machine : Machine} (sound : machine.Sound)
    (image : Except LoadError Rom) (consumed : Nat) :
    (machine.loadResult image consumed).machine.Sound := by
  -- Without an image the machine is the one before.
  cases image with
  | error error => exact sound
  | ok rom =>
    -- The image goes to memory, and all else is as after a reset.
    simp only [Machine.loadResult, insert_eq]
    exact sound_of_start rfl machine.hardware.stack.toList_clear rfl

/-- Every request keeps a machine sound. -/
theorem Sound.apply {machine : Machine} (sound : machine.Sound) (event : Event) :
    (machine.apply event).machine.Sound := by
  -- Loading ends in the same place from all three kinds of image, and timers, keys and screen
  -- are no part of what is bounded.
  cases event with
  | load bytes => exact sound.loadResult _ _
  | loadFrom source reported => exact sound.loadResult _ _
  | loadFile file =>
    cases file with
    | error failure => exact sound.loadResult _ _
    | ok opened => exact sound.loadResult _ _
  | reset => exact machine.sound_reset
  | step => exact sound.step
  | frame count => exact sound.frame count
  | tick => exact sound.of_eq rfl rfl rfl
  | keys event => exact sound.of_eq rfl rfl rfl
  | screen event => exact sound.of_eq rfl rfl rfl

/-- Any number of requests keep a machine sound, in whatever order they are made. -/
theorem Sound.applyAll {machine : Machine} (sound : machine.Sound) (events : List Event) :
    (machine.applyAll events).2.1.Sound := by
  -- The requests after the first are made of the machine that the first one leaves.
  induction events generalizing machine with
  | nil => exact sound
  | cons event rest ih => exact ih (sound.apply event)

end Machine

/-- The parts of hardware have the sizes of the machine. -/
structure Hardware.Sized (hardware : Hardware) : Prop where
  /-- There are 4096 bytes of memory. -/
  memory : hardware.memory.bytes.toList.length = 4096
  /-- There are sixteen registers. -/
  registers : hardware.registers.values.toList.length = 16
  /-- There are 64 times 32 pixels. -/
  screen : hardware.screen.cells.toList.length = 2048
  /-- There are at most sixteen pending calls. -/
  calls : hardware.stack.toList.length ≤ 16

/-- A cycle reckons with words as with numbers, whatever instruction it might carry out. -/
structure Hardware.Unwrapped (hardware : Hardware) : Prop where
  /-- The sums of the fetch fit their words. -/
  fetch : ∀ addition ∈ hardware.fetchAdditions, addition.Fits
  /-- The fetch moves the counter by exactly two. -/
  passed : hardware.passed.pc.toNat = hardware.pc.toNat + 2
  /-- Skips, jumps ahead and the wait for a key lead to the exact sum or difference. -/
  counter : ∀ (operation : Operation) (after : Hardware),
    operation.effect.run hardware.passed = .ok () after →
      after.pc.toNat = operation.continuation hardware.passed
  /-- The counter is not moved back past zero. -/
  back : 2 ≤ hardware.passed.pc.toNat
  /-- All other sums fit their words. -/
  effect : ∀ (operation : Operation), ∀ addition ∈ operation.additions hardware.passed,
    addition.Fits
  /-- The distance of a jump ahead is the exact sum of its operands. -/
  ahead : ∀ offset : Address,
    (UInt16.ofNat offset.val + (hardware.register Register.first).toUInt16).toNat =
      offset.val + (hardware.register Register.first).toNat
  /-- The listed sums of the fetch are all that it forms, so words that form sums exactly wherever
  these fit make no difference to it. -/
  fetched : ∀ reckon : Reckoning, reckon.Faithful →
    (Hardware.fetchBy reckon).run hardware = Hardware.fetch.run hardware
  /-- They make no difference to the effect of any instruction either. -/
  carriedOut : ∀ reckon : Reckoning, reckon.Faithful → ∀ operation : Operation,
    (operation.effectBy reckon).run hardware.passed = operation.effect.run hardware.passed

/-- All parts of hardware have their sizes. -/
theorem Hardware.sized (hardware : Hardware) : hardware.Sized where
  memory := Vector.length_toList
  registers := Vector.length_toList
  screen := Vector.length_toList
  -- The number of pending calls is bounded by the type of the stack itself.
  calls := by
    rw [ReturnStack.length_toList]
    exact hardware.stack.size_le

/-- In a sound machine no sum of a cycle leaves its word. -/
theorem Machine.Sound.unwrapped {machine : Machine} (sound : machine.Sound) :
    machine.hardware.Unwrapped := by
  -- The counter is so small that even a jump ahead from the farthest place stays in a word.
  have bound := sound.counter
  have moved : machine.hardware.passed.pc.toNat = machine.hardware.pc.toNat + 2 := by
    have two : (2 : UInt16).toNat = 2 := rfl
    simp only [Hardware.passed, UInt16.toNat_add, two]
    omega
  -- The fetch forms three sums, two in checks and one for the address behind the word.
  have fetch : ∀ addition ∈ machine.hardware.fetchAdditions, addition.Fits := by
    intro addition formed
    simp only [Hardware.fetchAdditions, List.mem_cons, List.not_mem_nil, or_false] at formed
    rcases formed with check | range | next
    · subst check
      exact Addition.fits_long (by omega)
    · subst range
      exact Addition.fits_long (by omega)
    · subst next
      simp only [Addition.Fits, Addition.short]
      omega
  constructor
  case fetch => exact fetch
  case passed => exact moved
  case counter =>
    intro operation after carriedOut
    exact (Operation.control_of_effect (by omega) (by omega) carriedOut).1
  case back => omega
  -- Every sum of an instruction is bounded by the sizes of its operands.
  case effect =>
    intro operation addition formed
    exact Operation.fits_of_mem_additions formed
  -- Twelve bits and a byte together do not reach a word.
  case ahead =>
    intro offset
    have byte := (machine.hardware.register Register.first).toNat_lt
    rw [UInt16.toNat_add, Operation.toNat_ofNat_address, UInt8.toNat_toUInt16]
    omega
  -- What fits is formed exactly, and what is formed exactly makes no difference.
  case fetched =>
    intro reckon faithful
    exact machine.hardware.run_fetchBy (faithful.exact fetch)
  case carriedOut =>
    intro reckon faithful operation
    exact Operation.run_effectBy (faithful.exact fun _ => Operation.fits_of_mem_additions)

/--
Whatever a host asks of a machine from power-on, the machine keeps within its bounds, and no cycle that
it can carry out leaves the range of a word.

The sums that are listed for a cycle are all that it forms, and each of them is the exact one.
-/
theorem applyAll_powerOn_keeps_bounds (random : Random) (events : List Machine.Event) :
    (Machine.applyAll ⟨Hardware.powerOn random, .running⟩ events).2.1.Sound ∧
      (Machine.applyAll ⟨Hardware.powerOn random, .running⟩ events).2.1.hardware.Sized ∧
      (Machine.applyAll ⟨Hardware.powerOn random, .running⟩ events).2.1.hardware.Unwrapped := by
  -- Every request keeps what holds at the start, and the other bounds follow from it.
  have start : Machine.Sound ⟨Hardware.powerOn random, .running⟩ :=
    Machine.sound_of_start rfl ReturnStack.toList_empty rfl
  have sound := start.applyAll events
  exact ⟨sound, Hardware.sized _, sound.unwrapped⟩

/-- Words that wrap round carry out the farthest jump ahead as numbers do. -/
theorem applyAll_powerOn_keeps_bounds_by_wrapping_words :
    let machine := (Machine.applyAll ⟨Hardware.powerOn (Random.ofSeed 0), .running⟩
      [.load [0x60, 0xFF, 0xBF, 0xFF], .step]).2.1
    ((Operation.jumpAhead 0xFFF).effectBy fun addition => addition.sum % addition.room).run
        machine.hardware.passed =
      (Operation.jumpAhead 0xFFF).effect.run machine.hardware.passed :=
  (applyAll_powerOn_keeps_bounds (Random.ofSeed 0) _).2.2.carriedOut _ Reckoning.faithful_mod _

end ChipEight
