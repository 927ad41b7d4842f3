import ChipEight.Proofs.Machine.Cycle
import ChipEight.Proofs.Operation.Code

/-! For which reasons a running machine halts, and what it has changed by then. -/

namespace ChipEight

/-- How far the program counter has moved when a fault stops a cycle. -/
def Fault.distance : Fault → Nat
  -- Without room for a word nothing is passed, and every other fault comes after the fetch.
  | counterOutside _ => 0
  | _ => 2

namespace Memory

/-- An overrun is reported as an address outside of memory. -/
theorem overrun_eq_some_iff (address : UInt16) (length : Nat) (fault : Fault) :
    overrun address length = some fault ↔
      4096 < address.toNat + length ∧ fault = .outsideMemory (max address.toNat 4096) := by
  -- The check has one outcome for each of its branches.
  unfold overrun
  split
  · rename_i outside
    simp [outside, eq_comm]
  · rename_i inside
    simp [inside]

end Memory

namespace Operation

/-- The obstacle of an instruction does not depend on the program counter. -/
theorem obstacle_passed (operation : Operation) (hardware : Hardware) :
    operation.obstacle hardware.passed = operation.obstacle hardware := by
  -- Only the call stack and the index are looked at.
  cases operation <;> rfl

/-- Obeying a word that fails leaves the hardware untouched. -/
theorem eq_of_obey_error {word : UInt16} {before after : Hardware} {fault : Fault}
    (failed : (obey word).run before = .error fault after) : after = before := by
  -- Either the word is not recognised, or its instruction meets an obstacle.
  cases read : decode word with
  | error unknown =>
    simp only [obey, read, EStateM.run_bind, Attempt.run_ofExcept_error] at failed
    cases failed
    rfl
  | ok operation =>
    simp only [obey, read, EStateM.run_bind, Attempt.run_ofExcept_ok] at failed
    exact ((operation.stoppedBy_effect before).eq_of_error failed).2

end Operation

/-- The reasons for which a cycle halts a running machine, one for each check on its way. -/
inductive Hardware.HaltedBy (hardware : Hardware) : Fault → Prop
  /-- There is no room for a word at the program counter. -/
  | counter (late : 0x0FFF ≤ hardware.pc.toNat) :
    HaltedBy hardware (.counterOutside hardware.pc)
  /-- The word at the program counter spells no instruction. -/
  | word (room : hardware.pc.toNat < 0x0FFF)
    (unspelt : ∀ operation : Operation, operation.code ≠ hardware.wordAhead.toNat) :
    HaltedBy hardware (.unknownWord hardware.wordAhead)
  /-- A return meets an empty call stack. -/
  | ret (room : hardware.pc.toNat < 0x0FFF) (spelt : hardware.wordAhead.toNat = 0x00EE)
    (empty : hardware.stack.size = 0) : HaltedBy hardware .noPendingCall
  /-- A call meets a full call stack. -/
  | call (room : hardware.pc.toNat < 0x0FFF) (target : Address)
    (spelt : hardware.wordAhead.toNat = 0x2000 + target.val) (full : hardware.stack.size = 16) :
    HaltedBy hardware (.tooManyCalls 16)
  /-- A sprite runs past the end of memory. -/
  | draw (room : hardware.pc.toNat < 0x0FFF) (x y : Register) (height : Nibble)
    (spelt : hardware.wordAhead.toNat = 0xD000 + 0x100 * x.val + 0x10 * y.val + height.val)
    (outside : 4096 < hardware.index.toNat + height.val) :
    HaltedBy hardware (.outsideMemory (max hardware.index.toNat 4096))
  /-- Three decimal digits run past the end of memory. -/
  | digits (room : hardware.pc.toNat < 0x0FFF) (x : Register)
    (spelt : hardware.wordAhead.toNat = 0xF033 + 0x100 * x.val)
    (outside : 4096 < hardware.index.toNat + 3) :
    HaltedBy hardware (.outsideMemory (max hardware.index.toNat 4096))
  /-- A block of registers to store or to load runs past the end of memory. -/
  | block (room : hardware.pc.toNat < 0x0FFF) (last : Register)
    (spelt : hardware.wordAhead.toNat = 0xF055 + 0x100 * last.val ∨
      hardware.wordAhead.toNat = 0xF065 + 0x100 * last.val)
    (outside : 4096 < hardware.index.toNat + (last.val + 1)) :
    HaltedBy hardware (.outsideMemory (max hardware.index.toNat 4096))

namespace Hardware

/-- An instruction that meets an obstacle is a reason to halt. -/
theorem haltedBy_of_obstacle {hardware : Hardware} {operation : Operation} {fault : Fault}
    (room : hardware.pc.toNat < 0x0FFF) (spelt : operation.code = hardware.wordAhead.toNat)
    (obstacle : operation.obstacle hardware = some fault) : hardware.HaltedBy fault := by
  -- Each of the six instructions that can fail has its own reason.
  cases operation with
  | ret =>
    simp only [Operation.obstacle, Option.ite_none_right_eq_some, Option.some.injEq] at obstacle
    obtain ⟨empty, rfl⟩ := obstacle
    exact .ret room spelt.symm empty
  | call target =>
    simp only [Operation.obstacle, Option.ite_none_right_eq_some, Option.some.injEq] at obstacle
    obtain ⟨full, rfl⟩ := obstacle
    exact .call room target spelt.symm full
  | draw x y height =>
    obtain ⟨outside, rfl⟩ := (Memory.overrun_eq_some_iff ..).mp obstacle
    exact .draw room x y height spelt.symm outside
  | digits x =>
    obtain ⟨outside, rfl⟩ := (Memory.overrun_eq_some_iff ..).mp obstacle
    exact .digits room x spelt.symm outside
  | store last =>
    obtain ⟨outside, rfl⟩ := (Memory.overrun_eq_some_iff ..).mp obstacle
    exact .block room last (.inl spelt.symm) outside
  | load last =>
    obtain ⟨outside, rfl⟩ := (Memory.overrun_eq_some_iff ..).mp obstacle
    exact .block room last (.inr spelt.symm) outside
  -- No other instruction has an obstacle.
  | _ => cases obstacle

/-- A cycle that halts the machine has one of the reasons. -/
theorem Cycle.haltedBy {hardware : Hardware} {outcome : Machine × Journal} {fault : Fault}
    (cycle : hardware.Cycle outcome) (halted : outcome.1.run = .halted fault) :
    hardware.HaltedBy fault := by
  -- The first three outcomes have a fault each, and the last one has none.
  cases cycle with
  | unfetched late =>
    cases halted
    exact .counter late
  | unread room unknown =>
    -- A word that is not decoded is spelt by no instruction.
    cases halted
    obtain ⟨unspelt, rfl⟩ := (Operation.decode_eq_error_iff_code ..).mp unknown
    exact .word room unspelt
  | stopped room read obstacle =>
    -- A word that is decoded spells the instruction that meets the obstacle.
    cases halted
    rw [Operation.obstacle_passed] at obstacle
    exact haltedBy_of_obstacle room ((Operation.decode_eq_ok_iff ..).mp read) obstacle
  | done room read obstacle carriedOut => cases halted

/-- With room for a word the faults come after the fetch. -/
theorem HaltedBy.distance_eq {hardware : Hardware} {fault : Fault}
    (reason : hardware.HaltedBy fault) (room : hardware.pc.toNat < 0x0FFF) :
    fault.distance = 2 := by
  -- Only the lack of room for a word is noticed before it has been passed.
  cases reason with
  | counter late => omega
  | _ => rfl

/-- A halting cycle has passed the word that was fetched, if any, and changed nothing else. -/
theorem Cycle.of_halted {hardware : Hardware} {outcome : Machine × Journal} {fault : Fault}
    (cycle : hardware.Cycle outcome) (halted : outcome.1.run = .halted fault) :
    outcome.1.hardware = { hardware with pc := outcome.1.hardware.pc } ∧
      outcome.1.hardware.pc.toNat = hardware.pc.toNat + fault.distance := by
  -- The hardware left behind is the one before the fetch or the one after it.
  have reason := cycle.haltedBy halted
  cases cycle with
  | unfetched late =>
    cases halted
    exact ⟨rfl, rfl⟩
  -- The word was fetched before it was found to be unknown.
  | unread room unknown =>
    cases halted
    rw [reason.distance_eq room]
    exact ⟨rfl, toNat_pc_passed room⟩
  | stopped room read obstacle =>
    cases halted
    rw [reason.distance_eq room]
    exact ⟨rfl, toNat_pc_passed room⟩
  | done room read obstacle carriedOut => cases halted

/-- A cycle halts for the obstacle of the instruction at the program counter. -/
theorem Cycle.halted_of_obstacle {hardware : Hardware} {outcome : Machine × Journal}
    {fault : Fault} (cycle : hardware.Cycle outcome) (operation : Operation)
    (room : hardware.pc.toNat < 0x0FFF) (spelt : hardware.wordAhead.toNat = operation.code)
    (found : operation.obstacle hardware = some fault) : outcome.1.run = .halted fault := by
  -- The word is decoded as that instruction, which leaves only the third outcome.
  have decoded := (Operation.decode_eq_ok_iff _ operation).mpr spelt.symm
  cases cycle with
  | unfetched late => omega
  | unread _ unknown =>
    rw [decoded] at unknown
    cases unknown
  | stopped _ read obstacle =>
    rw [decoded] at read
    cases read
    rw [Operation.obstacle_passed, found] at obstacle
    cases obstacle
    rfl
  | done _ read obstacle _ =>
    rw [decoded] at read
    cases read
    rw [Operation.obstacle_passed, found] at obstacle
    cases obstacle

/-- Each of the reasons halts the machine. -/
theorem HaltedBy.halted {hardware : Hardware} {outcome : Machine × Journal} {fault : Fault}
    (reason : hardware.HaltedBy fault) (cycle : hardware.Cycle outcome) :
    outcome.1.run = .halted fault := by
  -- What a reason says of the word or of the counter leaves one outcome of the cycle.
  cases reason with
  | counter late =>
    -- There is no room for a word, so all outcomes but the first are excluded.
    cases cycle with
    | unfetched _ => rfl
    | unread room _ => omega
    | stopped room _ _ => omega
    | done room _ _ _ => omega
  | word room unspelt =>
    -- No decoding succeeds, so the cycle ends before an instruction is carried out.
    cases cycle with
    | unfetched late => omega
    | unread _ unknown =>
      obtain ⟨_, rfl⟩ := (Operation.decode_eq_error_iff_code ..).mp unknown
      rfl
    | stopped _ read _ => exact absurd ((Operation.decode_eq_ok_iff ..).mp read) (unspelt _)
    | done _ read _ _ => exact absurd ((Operation.decode_eq_ok_iff ..).mp read) (unspelt _)
  | ret room spelt empty =>
    exact cycle.halted_of_obstacle .ret room spelt (if_pos empty)
  | call room target spelt full =>
    exact cycle.halted_of_obstacle (.call target) room spelt (if_pos full)
  | draw room x y height spelt outside =>
    exact cycle.halted_of_obstacle (.draw x y height) room spelt (if_pos outside)
  | digits room x spelt outside =>
    exact cycle.halted_of_obstacle (.digits x) room spelt (if_pos outside)
  | block room last spelt outside =>
    -- Stores and loads have the same obstacle.
    rcases spelt with spelt | spelt
    · exact cycle.halted_of_obstacle (.store last) room spelt (if_pos outside)
    · exact cycle.halted_of_obstacle (.load last) room spelt (if_pos outside)

/-- No failure to load a program image is among the reasons. -/
theorem not_haltedBy_unloadable (hardware : Hardware) (error : LoadError) :
    ¬ hardware.HaltedBy (.unloadable error) := by
  -- None of the reasons has such a fault.
  intro reason
  cases reason

/-- With room for a word its two bytes are read without a further fault. -/
theorem readBytes_pc (hardware : Hardware) (room : hardware.pc.toNat < 0x0FFF) :
    hardware.memory.readBytes hardware.pc 2 =
      .ok [hardware.memory.byteAt hardware.pc.toNat,
        hardware.memory.byteAt (hardware.pc.toNat + 1)] := by
  -- The last address that leaves room for a word is that of the byte before the last.
  have inside : hardware.pc.toNat + 2 ≤ 4096 := by omega
  rw [hardware.memory.readBytes_of_le inside]
  rfl

end Hardware

/-- A failing cycle changes nothing but the program counter, which has passed the fetched word if
there was one, and a failing instruction changes nothing at all. -/
theorem halting_step_changes_only_pc :
    (∀ (machine : Machine) (fault : Fault), machine.run = .running →
      machine.step.1.run = .halted fault →
        machine.step.1.hardware = { machine.hardware with pc := machine.step.1.hardware.pc } ∧
        machine.step.1.hardware.pc.toNat = machine.hardware.pc.toNat + fault.distance) ∧
    (∀ (word : UInt16) (before after : Hardware) (fault : Fault),
      (Operation.obey word).run before = .error fault after → after = before) := by
  constructor
  · -- What a halting cycle leaves was shown for each of its outcomes.
    intro machine fault running halted
    exact (Machine.cycle_step running).of_halted halted
  · intro word before after fault failed
    exact Operation.eq_of_obey_error failed

/-- In empty memory the first cycle halts on a word of zeros that it has passed, and a return
without a call leaves everything as it was. -/
theorem halting_step_in_empty_memory :
    (∃ (machine : Machine) (fault : Fault), machine.step.1.run = .halted fault ∧
      machine.step.1.hardware.pc.toNat = machine.hardware.pc.toNat + 2) ∧
    (∃ after, (Operation.obey 0x00EE).run (Machine.powerOn 0).hardware =
      .error .noPendingCall after ∧ after = (Machine.powerOn 0).hardware) := by
  -- The faults are found by running the machine, and the theorem tells what they left behind.
  constructor
  · -- A word of zeros spells no instruction.
    refine ⟨⟨{ Hardware.powerOn (Random.ofSeed 0) with memory := Memory.zero }, .running⟩,
      .unknownWord 0, ?_⟩
    have halted : (Machine.step
        ⟨{ Hardware.powerOn (Random.ofSeed 0) with memory := Memory.zero }, .running⟩).1.run =
          .halted (.unknownWord 0) := by decide +kernel
    exact ⟨halted, (halting_step_changes_only_pc.1 _ _ rfl halted).2⟩
  · have failed : (Operation.obey 0x00EE).run (Machine.powerOn 0).hardware =
        .error .noPendingCall (Machine.powerOn 0).hardware := rfl
    exact ⟨_, failed, halting_step_changes_only_pc.2 _ _ _ _ failed⟩

/-- A running machine halts for a fault exactly when there is a reason for that fault, where the
word looked at is read high byte first and no check of its bytes can fail once there is room for
it, and where loading is never to blame. -/
theorem step_halts_iff_haltedBy (hardware : Hardware) :
    (∀ fault : Fault,
      (Machine.step ⟨hardware, .running⟩).1.run = .halted fault ↔ hardware.HaltedBy fault) ∧
    ((Machine.step ⟨hardware, .running⟩).1.run = .running ↔
      ∀ fault : Fault, ¬ hardware.HaltedBy fault) ∧
    (hardware.pc.toNat < 0x0FFF →
      hardware.memory.readBytes hardware.pc 2 =
        .ok [hardware.memory.byteAt hardware.pc.toNat,
          hardware.memory.byteAt (hardware.pc.toNat + 1)] ∧
      hardware.wordAhead.toNat =
        256 * (hardware.memory.byteAt hardware.pc.toNat).toNat +
          (hardware.memory.byteAt (hardware.pc.toNat + 1)).toNat) ∧
    ∀ error : LoadError,
      (Machine.step ⟨hardware, .running⟩).1.run ≠ .halted (.unloadable error) := by
  -- A cycle that halts has its reason, and a reason decides how the cycle ends.
  have cycle : hardware.Cycle (Machine.step ⟨hardware, .running⟩) :=
    Machine.cycle_advance hardware
  have halts : ∀ fault : Fault,
      (Machine.step ⟨hardware, .running⟩).1.run = .halted fault ↔ hardware.HaltedBy fault := by
    intro fault
    exact ⟨cycle.haltedBy, fun reason => reason.halted cycle⟩
  refine ⟨halts, ?_, ?_, ?_⟩
  · -- To run on is to have halted for no fault, and every halt has its fault.
    constructor
    · intro running fault reason
      rw [(halts fault).mpr reason] at running
      cases running
    · intro unharmed
      cases run : (Machine.step ⟨hardware, .running⟩).1.run with
      | running => rfl
      | halted fault => exact absurd ((halts fault).mp run) (unharmed fault)
  · -- Room for a word is room for both of its bytes.
    intro room
    exact ⟨hardware.readBytes_pc room, hardware.memory.toNat_wordAt hardware.pc.toNat⟩
  · -- A halt has a reason, and no reason is a failure to load.
    intro error halted
    exact hardware.not_haltedBy_unloadable error ((halts _).mp halted)

/-- Empty memory halts the machine on its first word, which is zero, and for no other reason. -/
theorem step_halts_iff_haltedBy_in_empty_memory :
    ∃ hardware : Hardware, hardware.HaltedBy (.unknownWord 0) ∧ hardware.wordAhead.toNat = 0 := by
  -- The bytes ahead are zeros, and running the machine shows the fault.
  refine ⟨{ Hardware.powerOn (Random.ofSeed 0) with memory := Memory.zero }, ?_⟩
  obtain ⟨halts, -, word, -⟩ :=
    step_halts_iff_haltedBy { Hardware.powerOn (Random.ofSeed 0) with memory := Memory.zero }
  refine ⟨(halts _).mp (by decide +kernel), ?_⟩
  rw [(word (by decide)).2]
  simp

end ChipEight
