import ChipEight.Proofs.Machine.Halt
import ChipEight.Proofs.Operation.Control

/-! Where a step leads that leaves its machine running, word by word and reckoned in numbers. -/

namespace ChipEight

/-- Whether an instruction may lead anywhere but to the word behind it. -/
def Operation.branches : Operation → Bool
  | ret | jump _ | call _ | jumpAhead _ | awaitKey _ => true
  | skipIfByte _ _ | skipUnlessByte _ _ | skipIfEqual _ _ | skipUnlessEqual _ _ => true
  | skipIfDown _ | skipUnlessDown _ => true
  | _ => false

/-- Two instructions of which one passes over the next word where the other does not. -/
inductive Operation.Opposite : Operation → Operation → Prop
  /-- Words `3xnn` against words `4xnn`. -/
  | byte (x : Register) (byte : UInt8) : Opposite (skipIfByte x byte) (skipUnlessByte x byte)
  /-- Words `5xy0` against words `9xy0`. -/
  | registers (x y : Register) : Opposite (skipIfEqual x y) (skipUnlessEqual x y)
  /-- Words `Ex9E` against words `ExA1`. -/
  | key (x : Register) : Opposite (skipIfDown x) (skipUnlessDown x)

/-- The address at which a program continues, by the word at the program counter. -/
structure Hardware.Flow (hardware : Hardware) (next : Nat) : Prop where
  /-- A jump continues at its address. -/
  jump : ∀ target : Address, hardware.wordAhead.toNat = 0x1000 + target.val → next = target.val
  /-- So does a call. -/
  call : ∀ target : Address, hardware.wordAhead.toNat = 0x2000 + target.val → next = target.val
  /-- A return continues at the latest of the return addresses. -/
  ret : hardware.wordAhead.toNat = 0x00EE →
    ∃ earlier latest, hardware.stack.toList = earlier ++ [latest] ∧ next = latest.toNat
  /-- A jump ahead reckons from the word behind it. -/
  jumpAhead : ∀ offset : Address, hardware.wordAhead.toNat = 0xB000 + offset.val →
    next = hardware.pc.toNat + 2 + offset.val + (hardware.register Register.first).toNat
  /-- A word is passed over if a register holds a byte. -/
  skipIfByte : ∀ (x : Register) (byte : UInt8),
    hardware.wordAhead.toNat = 0x3000 + 0x100 * x.val + byte.toNat →
      next = if hardware.register x = byte then hardware.pc.toNat + 4 else hardware.pc.toNat + 2
  /-- A word is passed over unless a register holds a byte. -/
  skipUnlessByte : ∀ (x : Register) (byte : UInt8),
    hardware.wordAhead.toNat = 0x4000 + 0x100 * x.val + byte.toNat →
      next = if hardware.register x ≠ byte then hardware.pc.toNat + 4 else hardware.pc.toNat + 2
  /-- A word is passed over if two registers agree. -/
  skipIfEqual : ∀ x y : Register,
    hardware.wordAhead.toNat = 0x5000 + 0x100 * x.val + 0x10 * y.val →
      next = if hardware.register x = hardware.register y then hardware.pc.toNat + 4
        else hardware.pc.toNat + 2
  /-- A word is passed over unless two registers agree. -/
  skipUnlessEqual : ∀ x y : Register,
    hardware.wordAhead.toNat = 0x9000 + 0x100 * x.val + 0x10 * y.val →
      next = if hardware.register x ≠ hardware.register y then hardware.pc.toNat + 4
        else hardware.pc.toNat + 2
  /-- A word is passed over if the key of the lowest four bits of a register is down. -/
  skipIfDown : ∀ x : Register, hardware.wordAhead.toNat = 0xE09E + 0x100 * x.val →
    next = if hardware.keypad.isDown (Nibble.ofByte (hardware.register x)) = true
      then hardware.pc.toNat + 4 else hardware.pc.toNat + 2
  /-- A word is passed over if that key is up. -/
  skipUnlessDown : ∀ x : Register, hardware.wordAhead.toNat = 0xE0A1 + 0x100 * x.val →
    next = if hardware.keypad.isDown (Nibble.ofByte (hardware.register x)) = false
      then hardware.pc.toNat + 4 else hardware.pc.toNat + 2
  /-- A wait for a key is repeated as long as no key is down. -/
  awaitKey : ∀ x : Register, hardware.wordAhead.toNat = 0xF00A + 0x100 * x.val →
    next = if ∀ key, hardware.keypad.isDown key = false then hardware.pc.toNat
      else hardware.pc.toNat + 2
  /-- Every other instruction continues behind its word. -/
  straight : ∀ operation : Operation, operation.code = hardware.wordAhead.toNat →
    operation.branches = false → next = hardware.pc.toNat + 2

namespace Operation

/-- An instruction that leads to the word behind it or over that word does so as its condition has
it. -/
private theorem next_of_skip {operation : Operation} {hardware : Hardware} {next : Nat}
    (behind : hardware.passed.pc.toNat = hardware.pc.toNat + 2)
    (leads : next = if operation.skips hardware.passed then hardware.passed.pc.toNat + 2
      else hardware.passed.pc.toNat)
    {condition : Prop} [Decidable condition]
    (decides : operation.skips hardware.passed = true ↔ condition) :
    next = if condition then hardware.pc.toNat + 4 else hardware.pc.toNat + 2 := by
  -- The skip is reckoned from the word behind the instruction, two further on than the statement.
  simp only [leads, behind, decides]

/-- An instruction that has been carried out on the hardware behind its word leads where its word
says. -/
theorem flow_of_effect {operation : Operation} {hardware after : Hardware}
    (room : hardware.pc.toNat < 0x0FFF) (spelt : operation.code = hardware.wordAhead.toNat)
    (carriedOut : operation.effect.run hardware.passed = .ok () after) :
    hardware.Flow after.pc.toNat := by
  -- The continuation is reckoned from the counter behind the word, which is two further on.
  have behind := Hardware.toNat_pc_passed room
  have leads : after.pc.toNat = operation.continuation hardware.passed :=
    (control_of_effect (by omega) (by omega) carriedOut).1
  -- Each clause is about the only instruction that its word spells.
  have only (other : Operation) (word : hardware.wordAhead.toNat = other.code) :
      operation = other := eq_of_code_eq spelt word.symm
  constructor
  case jump =>
    intro target word
    cases only (.jump target) word
    exact leads
  case call =>
    intro target word
    cases only (.call target) word
    exact leads
  case ret =>
    intro word
    cases only .ret word
    -- The fetch has not touched the stack from which the address is taken.
    obtain ⟨address, stack, listed, rfl⟩ := ok_of_ret carriedOut
    exact ⟨stack.toList, address, listed, rfl⟩
  case jumpAhead =>
    intro offset word
    cases only (.jumpAhead offset) word
    -- The counter behind the word is two further on, which comes first in the sum.
    rw [leads]
    simp only [continuation, behind]
    exact (Nat.add_assoc ..).symm
  case skipIfByte =>
    intro x byte word
    cases only (.skipIfByte x byte) word
    exact next_of_skip behind leads beq_iff_eq
  case skipUnlessByte =>
    intro x byte word
    cases only (.skipUnlessByte x byte) word
    exact next_of_skip behind leads bne_iff_ne
  case skipIfEqual =>
    intro x y word
    cases only (.skipIfEqual x y) word
    exact next_of_skip behind leads beq_iff_eq
  case skipUnlessEqual =>
    intro x y word
    cases only (.skipUnlessEqual x y) word
    exact next_of_skip behind leads bne_iff_ne
  case skipIfDown =>
    intro x word
    cases only (.skipIfDown x) word
    exact next_of_skip behind leads Iff.rfl
  case skipUnlessDown =>
    intro x word
    cases only (.skipUnlessDown x) word
    exact next_of_skip behind leads (iff_of_eq (Bool.not_eq_true' _))
  case awaitKey =>
    intro x word
    cases only (.awaitKey x) word
    -- The lowest key that is down is missing exactly when no key is down.
    have none := hardware.passed.keypad.first?_eq_none_iff
    rw [leads]
    by_cases up : ∀ key, hardware.keypad.isDown key = false
    · rw [if_pos up, continuation, none.mpr up, behind]
      rfl
    · rw [if_neg up, continuation, if_pos, behind]
      rw [Option.isSome_iff_ne_none]
      exact fun missing => up (none.mp missing)
  case straight =>
    intro other word falls
    cases only other word.symm
    -- None of the instructions that branch is meant, and every other leaves the counter alone.
    rw [leads]
    cases operation <;> first | exact behind | cases falls

end Operation

namespace Machine

variable {hardware : Hardware}

/-- A step that leaves its machine running has carried out the instruction that it found. -/
theorem carriedOut_of_running (running : (step ⟨hardware, .running⟩).1.run = .running) :
    ∃ operation : Operation, operation.code = hardware.wordAhead.toNat ∧
      hardware.pc.toNat < 0x0FFF ∧
      operation.effect.run hardware.passed = .ok () (step ⟨hardware, .running⟩).1.hardware := by
  -- The other three outcomes of a cycle halt the machine.
  have cycle : hardware.Cycle (step ⟨hardware, .running⟩) := cycle_advance hardware
  generalize step ⟨hardware, .running⟩ = result at running cycle ⊢
  cases cycle with
  | @done room operation after read obstacle carriedOut =>
    exact ⟨operation, (Operation.decode_eq_ok_iff ..).mp read, room, carriedOut⟩
  | unfetched late => cases running
  | unread room unknown => cases running
  | stopped room read obstacle => cases running

/-- A step that finds an instruction without an obstacle carries it out. -/
theorem step_of_obstacle_none {operation : Operation} (room : hardware.pc.toNat < 0x0FFF)
    (spelt : operation.code = hardware.wordAhead.toNat)
    (free : operation.obstacle hardware = none) :
    (step ⟨hardware, .running⟩).1.run = .running ∧
      (step ⟨hardware, .running⟩).1.hardware.pc.toNat =
        operation.continuation hardware.passed := by
  -- The word spells the instruction and no other.
  have read := (Operation.decode_eq_ok_iff hardware.wordAhead operation).mpr spelt
  -- Passing the word does not put an obstacle in the way.
  obtain ⟨after, carriedOut⟩ :=
    Operation.exists_of_obstacle_none ((operation.obstacle_passed hardware).trans free)
  -- With the effect carried out the cycle has its only outcome.
  have outcome : step ⟨hardware, .running⟩ = _ := advance_of_carriedOut room read carriedOut
  rw [outcome]
  have behind := Hardware.toNat_pc_passed room
  exact ⟨rfl, (Operation.control_of_effect (by omega) (by omega) carriedOut).1⟩

/-- Two machines that run on at two addresses, one behind the word that follows an instruction at
the given address and the other in front of it. -/
structure Parted (address : Nat) (left right : Machine) : Prop where
  /-- The first machine runs on. -/
  leftRuns : left.run = .running
  /-- So does the second. -/
  rightRuns : right.run = .running
  /-- Exactly one of them has passed over the word. -/
  apart :
    (left.hardware.pc.toNat = address + 4 ∧ right.hardware.pc.toNat = address + 2) ∨
      (left.hardware.pc.toNat = address + 2 ∧ right.hardware.pc.toNat = address + 4)

end Machine

namespace Operation

variable {one other : Operation}

/-- Whatever memory they are found in, two opposite instructions have no obstacle, and the one
passes over the next word exactly when the other does not. -/
private theorem Opposite.continuations (opposite : Opposite one other) (hardware : Hardware)
    (first second : Memory) :
    one.obstacle { hardware with memory := first } = none ∧
      other.obstacle { hardware with memory := second } = none ∧
      ∃ passes : Bool,
        one.continuation { hardware with memory := first } =
          (if passes then hardware.pc.toNat + 2 else hardware.pc.toNat) ∧
        other.continuation { hardware with memory := second } =
          if !passes then hardware.pc.toNat + 2 else hardware.pc.toNat := by
  -- The conditions are about registers and keys only, and the one is the negation of the other.
  cases opposite with
  | byte x byte => exact ⟨rfl, rfl, hardware.register x == byte, rfl, rfl⟩
  | registers x y => exact ⟨rfl, rfl, hardware.register x == hardware.register y, rfl, rfl⟩
  | key x =>
    exact ⟨rfl, rfl, hardware.keypad.isDown (Nibble.ofByte (hardware.register x)), rfl, rfl⟩

/-- From the same state two opposite instructions lead to two addresses. -/
theorem Opposite.parted (opposite : Opposite one other) {hardware : Hardware}
    (room : hardware.pc.toNat < 0x0FFF) {first second : Memory}
    (left : (first.wordAt hardware.pc.toNat).toNat = one.code)
    (right : (second.wordAt hardware.pc.toNat).toNat = other.code) :
    Machine.Parted hardware.pc.toNat (Machine.step ⟨{ hardware with memory := first }, .running⟩).1
      (Machine.step ⟨{ hardware with memory := second }, .running⟩).1 := by
  -- Neither instruction has an obstacle, so both cycles are carried out.
  have behind := Hardware.toNat_pc_passed room
  obtain ⟨freeLeft, freeRight, -⟩ := opposite.continuations hardware first second
  obtain ⟨-, -, passes, leftLeads, rightLeads⟩ :=
    opposite.continuations hardware.passed first second
  obtain ⟨leftRuns, leftNext⟩ :=
    @Machine.step_of_obstacle_none { hardware with memory := first } one room left.symm freeLeft
  obtain ⟨rightRuns, rightNext⟩ :=
    @Machine.step_of_obstacle_none { hardware with memory := second } other room right.symm
      freeRight
  refine ⟨leftRuns, rightRuns, ?_⟩
  -- Passing the word of the instruction is the same in either memory.
  have leftNext := leftNext.trans leftLeads
  have rightNext := rightNext.trans rightLeads
  rw [leftNext, rightNext, behind]
  -- Where the condition holds the first one passes over the word, and otherwise the second does.
  cases passes with
  | true => exact .inl ⟨rfl, rfl⟩
  | false => exact .inr ⟨rfl, rfl⟩

end Operation

/-- A step that leaves its machine running has found a whole word that spells an instruction and
leads where that word says, and opposite instructions found in place of each other lead to two
addresses. -/
theorem running_step_follows_flow (hardware : Hardware) :
    ((Machine.step ⟨hardware, .running⟩).1.run = .running →
      hardware.pc.toNat < 0x0FFF ∧
      (∃ operation : Operation, operation.code = hardware.wordAhead.toNat) ∧
      hardware.Flow (Machine.step ⟨hardware, .running⟩).1.hardware.pc.toNat) ∧
    (hardware.pc.toNat < 0x0FFF → ∀ one other : Operation, one.Opposite other →
      ∀ first second : Memory,
        (first.wordAt hardware.pc.toNat).toNat = one.code →
        (second.wordAt hardware.pc.toNat).toNat = other.code →
        Machine.Parted hardware.pc.toNat
          (Machine.step ⟨{ hardware with memory := first }, .running⟩).1
          (Machine.step ⟨{ hardware with memory := second }, .running⟩).1) := by
  constructor
  · -- A machine that runs on tells which instruction it has carried out.
    intro running
    obtain ⟨operation, spelt, room, carriedOut⟩ := Machine.carriedOut_of_running running
    exact ⟨room, ⟨operation, spelt⟩, Operation.flow_of_effect room spelt carriedOut⟩
  · -- What holds at any two memories is known from the conditions.
    intro room one other opposite first second left right
    exact opposite.parted room left right

/-- At power-on a jump ahead is reckoned from the word behind it, and a comparison of the first
register with zero leads to two addresses as it is made for a skip or against one. -/
theorem running_step_follows_flow_from_power_on :
    ∃ hardware : Hardware, hardware.pc.toNat = 0x200 ∧
      (∃ memory : Memory,
        (Machine.step ⟨{ hardware with memory }, .running⟩).1.hardware.pc.toNat = 0x547) ∧
      ∃ first second : Memory,
        Machine.Parted 0x200 (Machine.step ⟨{ hardware with memory := first }, .running⟩).1
          (Machine.step ⟨{ hardware with memory := second }, .running⟩).1 := by
  -- The programs are a single word each, and what the theorem asks for is found by running them.
  refine ⟨Hardware.powerOn (Random.ofSeed 0), rfl, ?_, ?_⟩
  · refine ⟨Memory.zero.overlay 0x200 [0xB3, 0x45], ?_⟩
    generalize found : { Hardware.powerOn (Random.ofSeed 0) with
      memory := Memory.zero.overlay 0x200 [0xB3, 0x45] } = ahead
    -- Running the one word tells that it was a jump ahead, and what was in the first register.
    have ⟨running, spelt, start, operand, zero⟩ :
        (Machine.step ⟨ahead, .running⟩).1.run = .running ∧
          ahead.wordAhead.toNat = 0xB000 + (Address.ofNat 0x345).val ∧
          ahead.pc.toNat = 0x200 ∧ (Address.ofNat 0x345).val = 0x345 ∧
          (ahead.register Register.first).toNat = 0 := by
      subst found
      decide +kernel
    obtain ⟨-, -, flow⟩ := (running_step_follows_flow ahead).1 running
    rw [flow.jumpAhead _ spelt, start, operand, zero]
  · -- Both comparisons are with a register that is zero at power-on.
    refine ⟨Memory.zero.overlay 0x200 [0x30, 0x00], Memory.zero.overlay 0x200 [0x40, 0x00], ?_⟩
    have room : (Hardware.powerOn (Random.ofSeed 0)).pc.toNat < 0x0FFF := by decide
    exact (running_step_follows_flow _).2 room _ _ (.byte Register.first 0) _ _
      (by decide +kernel) (by decide +kernel)

end ChipEight
