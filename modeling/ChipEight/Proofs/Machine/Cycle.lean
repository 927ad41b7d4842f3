import ChipEight.Machine
import ChipEight.Proofs.Operation.Obstacle

/-! One cycle of running hardware ends in exactly one of four ways. -/

namespace ChipEight

namespace Hardware

/-- The word at the program counter. -/
def wordAhead (hardware : Hardware) : UInt16 :=
  hardware.memory.wordAt hardware.pc.toNat

/-- The hardware once the word at the program counter has been passed. -/
def passed (hardware : Hardware) : Hardware :=
  { hardware with pc := hardware.pc + 2 }

/-- Where there is room for a word, passing it moves the counter by two without wrapping round. -/
theorem toNat_pc_passed {hardware : Hardware} (room : hardware.pc.toNat < 0x0FFF) :
    hardware.passed.pc.toNat = hardware.pc.toNat + 2 := by
  -- The counter is far below the number of words.
  have two : (2 : UInt16).toNat = 2 := rfl
  simp only [passed, UInt16.toNat_add, two]
  omega

/-- Without room for a word nothing is fetched. -/
theorem run_fetch_of_ge {hardware : Hardware} (late : 0x0FFF ≤ hardware.pc.toNat) :
    fetch.run hardware = .error (.counterOutside hardware.pc) hardware := by
  -- The first check comes before anything is read.
  simp [fetch, late]

/-- With room for a word the check of its two bytes passes as well, and the word is passed. -/
theorem run_fetch_of_lt {hardware : Hardware} (room : hardware.pc.toNat < 0x0FFF) :
    fetch.run hardware = .ok hardware.wordAhead hardware.passed := by
  -- The second check asks for the same two addresses as the first.
  have early : ¬ 0x0FFF ≤ hardware.pc.toNat := Nat.not_le.mpr room
  have inside : hardware.pc.toNat + 2 ≤ 4096 := by omega
  have bytes := hardware.memory.readBytes_of_le inside
  simp [fetch, early, bytes, wordAhead, passed, Memory.wordAt]

/-- The outcomes of a cycle of running hardware, with the machine and the journal they leave. -/
inductive Cycle (hardware : Hardware) : Machine × Journal → Prop
  /-- There is no room for a word at the program counter. -/
  | unfetched (late : 0x0FFF ≤ hardware.pc.toNat) :
    Cycle hardware
      (⟨hardware, .halted (.counterOutside hardware.pc)⟩,
        [.halted hardware.pc (.counterOutside hardware.pc)])
  /-- The word at the program counter is none of the known ones. -/
  | unread (room : hardware.pc.toNat < 0x0FFF) {fault : Fault}
    (unknown : Operation.decode hardware.wordAhead = .error fault) :
    Cycle hardware
      (⟨hardware.passed, .halted fault⟩, [.halted hardware.passed.pc fault])
  /-- The instruction meets an obstacle. -/
  | stopped (room : hardware.pc.toNat < 0x0FFF) {operation : Operation} {fault : Fault}
    (read : Operation.decode hardware.wordAhead = .ok operation)
    (obstacle : operation.obstacle hardware.passed = some fault) :
    Cycle hardware
      (⟨hardware.passed, .halted fault⟩,
        [.executing hardware.pc hardware.wordAhead operation, .halted hardware.passed.pc fault])
  /-- The instruction is carried out. -/
  | done (room : hardware.pc.toNat < 0x0FFF) {operation : Operation} {after : Hardware}
    (read : Operation.decode hardware.wordAhead = .ok operation)
    (obstacle : operation.obstacle hardware.passed = none)
    (carriedOut : operation.effect.run hardware.passed = .ok () after) :
    Cycle hardware
      (⟨after, .running⟩, [.executing hardware.pc hardware.wordAhead operation])

end Hardware

/-- An instruction that is carried out enters the journal and leaves a running machine. -/
theorem Machine.advance_of_carriedOut {hardware after : Hardware} {operation : Operation}
    (room : hardware.pc.toNat < 0x0FFF)
    (read : Operation.decode hardware.wordAhead = .ok operation)
    (carriedOut : operation.effect.run hardware.passed = .ok () after) :
    advance hardware =
      (⟨after, .running⟩, [.executing hardware.pc hardware.wordAhead operation]) := by
  -- Fetch, decoding and effect have one outcome each.
  simp only [advance, Hardware.run_fetch_of_lt room, read, carriedOut]

/-- A cycle has one of the four outcomes. -/
theorem Machine.cycle_advance (hardware : Hardware) : hardware.Cycle (advance hardware) := by
  -- The cases are those of the three steps of a cycle, each of which may be the last.
  by_cases late : 0x0FFF ≤ hardware.pc.toNat
  · -- The fetch fails and leaves the hardware as it was.
    have outcome : advance hardware = halt hardware (.counterOutside hardware.pc) := by
      simp only [advance, Hardware.run_fetch_of_ge late]
    rw [outcome]
    exact .unfetched late
  · have room : hardware.pc.toNat < 0x0FFF := Nat.not_le.mp late
    have fetched := Hardware.run_fetch_of_lt room
    cases read : Operation.decode hardware.wordAhead with
    | error fault =>
      -- The word has been passed by the time it is not recognised.
      have outcome : advance hardware = halt hardware.passed fault := by
        simp only [advance, fetched, read]
      rw [outcome]
      exact .unread room read
    | ok operation =>
      -- The instruction meets its obstacle or is carried out in full.
      cases obstacle : operation.obstacle hardware.passed with
      | some fault =>
        -- What stops the instruction is its obstacle, and it has left the hardware as it was.
        have failed : operation.effect.run hardware.passed = .error fault hardware.passed := by
          have stoppedBy := operation.stoppedBy_effect hardware.passed
          rw [obstacle] at stoppedBy
          exact stoppedBy
        have outcome : advance hardware = (⟨hardware.passed, .halted fault⟩,
            [.executing hardware.pc hardware.wordAhead operation,
              .halted hardware.passed.pc fault]) := by
          simp only [advance, fetched, read, failed, halt]
        rw [outcome]
        exact .stopped room read obstacle
      | none =>
        -- Without an obstacle the instruction comes to its end.
        obtain ⟨after, carriedOut⟩ := Operation.exists_of_obstacle_none obstacle
        rw [advance_of_carriedOut room read carriedOut]
        exact .done room read obstacle carriedOut

/-- A running machine carries out one cycle of its hardware. -/
theorem Machine.cycle_step {machine : Machine} (running : machine.run = .running) :
    machine.hardware.Cycle machine.step := by
  -- The run alone decides whether a cycle is carried out.
  have same : machine.step = advance machine.hardware := by simp only [step, running]
  rw [same]
  exact cycle_advance machine.hardware

end ChipEight
