import ChipEight.Proofs.Machine.Course
import ChipEight.Proofs.Operation.Code

/-! The journal tells of every cycle what was about to be carried out and which fault came of it. -/

namespace ChipEight

/-- The levels of what is said about a fault that has stopped a machine, if one has. -/
def Run.warnings : Run → List String
  | .running => []
  | .halted _ => ["WARN"]

namespace Hardware

/-- Where the counter stands if a fault stops the next cycle, which is behind the word that was fetched
if there was one. -/
def stoppedAt (hardware : Hardware) : UInt16 :=
  -- A word is fetched before anything can go wrong with it, and the counter has moved by then.
  if hardware.pc.toNat < 0x0FFF then hardware.pc + 2 else hardware.pc

/-- What is said about the instruction at the counter before it is carried out, if there is one. -/
def announced (hardware : Hardware) : Journal :=
  match hardware.instruction? with
  | some operation => [.executing hardware.pc hardware.wordAhead operation]
  | none => []

/-- What is said about the fault that a cycle has ended in, if it has. -/
def reported (hardware : Hardware) (ended : Run) : Journal :=
  match ended with
  | .running => []
  | .halted fault => [.halted hardware.stoppedAt fault]

/-- The counter stands two addresses further on if a word was fetched, and where it was otherwise. -/
theorem toNat_stoppedAt (hardware : Hardware) :
    hardware.stoppedAt.toNat =
      if hardware.pc.toNat < 0x0FFF then hardware.pc.toNat + 2 else hardware.pc.toNat := by
  -- The check for room is the one that the fetch makes.
  unfold stoppedAt
  split
  case isTrue room => exact toNat_pc_passed room
  case isFalse => rfl

/-- An instruction is announced in a single line, which traces it. -/
theorem levels_announced (hardware : Hardware) :
    hardware.announced.map JournalEntry.level =
      List.replicate (if hardware.instruction?.isSome then 1 else 0) "TRACE" := by
  unfold announced
  -- Only an instruction that is known is announced.
  cases hardware.instruction? <;> rfl

/-- A fault is reported as a warning. -/
theorem levels_reported (hardware : Hardware) (ended : Run) :
    (hardware.reported ended).map JournalEntry.level = ended.warnings := by
  cases ended <;> rfl

/-- A cycle first announces its instruction and then reports its fault. -/
theorem Cycle.journal {hardware : Hardware} {outcome : Machine × Journal}
    (cycle : hardware.Cycle outcome) :
    outcome.2 = hardware.announced ++ hardware.reported outcome.1.run := by
  -- Each of the three exits comes before, between or behind the two.
  cases cycle with
  | unfetched late =>
    -- There was no word to be fetched, so nothing was announced and the counter has not moved.
    have far : ¬ hardware.pc.toNat < 0x0FFF := Nat.not_lt.mpr late
    have none : hardware.instruction? = none := if_neg far
    rw [announced, none, reported, stoppedAt, if_neg far]
    rfl
  | unread room unknown =>
    -- The word spells no instruction, so that the fault comes before an announcement.
    have none : hardware.instruction? = none := by
      rw [instruction?, if_pos room, unknown]
      rfl
    rw [announced, none, reported, stoppedAt, if_pos room]
    rfl
  | stopped room read obstacle =>
    -- The instruction was announced before its obstacle was met.
    have found := (hardware.instruction?_eq_some_iff _).mpr ⟨room, read⟩
    rw [announced, found, reported, stoppedAt, if_pos room]
    rfl
  | done room read obstacle carriedOut =>
    -- Nothing has stopped the instruction, so the announcement stands alone.
    have found := (hardware.instruction?_eq_some_iff _).mpr ⟨room, read⟩
    rw [announced, found]
    rfl

end Hardware

namespace Machine

/-- What a turn is to add to the journal. -/
def Turn.said (turn : Turn) : Journal :=
  match turn.act with
  | .cycle =>
    -- Only a cycle that is begun by a running machine is worth a word.
    match turn.found.run with
    | .running => turn.found.hardware.announced ++ turn.found.hardware.reported turn.left.run
    | .halted _ => []
  | .restart => [.reset]
  | .load (.ok rom) => [.reset, .loaded rom.bytes.length]
  | _ => []

/-- A turn adds to the journal what it is to add. -/
theorem Turn.journal (turn : Turn) : (turn.found.perform turn.act).2 = turn.said := by
  obtain ⟨machine, act⟩ := turn
  -- Only cycles, restarts and loads with an image say anything at all.
  cases act with
  | cycle =>
    show machine.step.2 = _
    cases run : machine.run with
    | running =>
      simp only [said, run]
      exact (cycle_step run).journal
    -- A halted machine is not asked to do the cycle, which therefore goes unmentioned.
    | halted fault =>
      simp only [said, run]
      rw [step_of_halted run]
  | load image =>
    cases image with
    | error error => rfl
    -- The reset is noted before the image is.
    | ok rom =>
      show (machine.perform (.load (.ok rom))).2 = _
      rw [perform_load_ok]
      rfl
  | restart | tick | keys _ | screen _ => rfl

/-- The journal of a run is what its turns are to say, one after the other. -/
theorem journal_performAll (machine : Machine) (acts : List Act) :
    (machine.performAll acts).2 = (machine.turns acts).flatMap Turn.said := by
  -- The turns behind the first one are those of a run from the machine that it leaves.
  induction acts generalizing machine with
  | nil => rfl
  | cons act rest ih =>
    have first := Turn.journal ⟨machine, act⟩
    simp only [performAll, turns, List.flatMap_cons, ih]
    rw [← first]

/-- Whether a turn gets as far as to carry out an instruction, be it in vain. -/
def Turn.begins (turn : Turn) : Bool :=
  match turn.act with
  | .cycle => turn.found.run.isRunning && turn.found.hardware.instruction?.isSome
  | _ => false

/-- Only cycles and restarts say anything. -/
theorem Turn.said_of_ne_cycle {turn : Turn} (idle : turn.act ≠ .cycle)
    (goesOn : turn.restarts = false) : turn.said = [] ∧ turn.begins = false := by
  obtain ⟨machine, act⟩ := turn
  -- An act that is no cycle says something only where it restarts the program.
  cases act with
  | cycle => exact absurd rfl idle
  | restart => cases goesOn
  | load image =>
    cases image with
    | error error => exact ⟨rfl, rfl⟩
    | ok rom => cases goesOn
  | tick | keys _ | screen _ => exact ⟨rfl, rfl⟩

/-- A turn of a program that goes on makes an announcement if it gets as far as that, and a warning
comes from a halt that was there before or that the turn has brought about. -/
theorem Turn.levels_said {turn : Turn} (goesOn : turn.restarts = false) :
    turn.found.run.warnings ++ turn.said.map JournalEntry.level =
      List.replicate (if turn.begins then 1 else 0) "TRACE" ++ turn.left.run.warnings := by
  obtain ⟨machine, act⟩ := turn
  by_cases cycle : act = .cycle
  · subst cycle
    cases run : machine.run with
    | running =>
      -- The announcement comes before the report, whether or not there is either of them.
      have left : Turn.left ⟨machine, .cycle⟩ = machine.step.1 := rfl
      simp only [said, begins, run, left, List.map_append, Hardware.levels_announced,
        Hardware.levels_reported]
      rfl
    | halted fault =>
      -- The machine has been warned about before, and nothing has come of it since.
      have left : Turn.left ⟨machine, .cycle⟩ = machine :=
        congrArg Prod.fst (step_of_halted run)
      simp only [said, begins, left, run]
      rfl
  · -- Nothing else says anything or stops a machine, unless it restarts the program.
    obtain ⟨-, ⟨restarts, -⟩ | ⟨-, kept, -⟩⟩ := machine.perform_of_ne_cycle cycle
    · rw [goesOn] at restarts
      cases restarts
    · obtain ⟨silent, idle⟩ := @Turn.said_of_ne_cycle ⟨machine, act⟩ cycle goesOn
      have left : (Turn.left ⟨machine, act⟩).run = machine.run := kept
      rw [silent, idle, left]
      exact List.append_nil _

/-- As long as a program goes on, its journal has one announcement for each cycle that gets as far as
to carry out an instruction, and then a warning if the machine has come to a halt. -/
theorem levels_performAll (machine : Machine) (acts : List Act)
    (goesOn : ∀ turn ∈ machine.turns acts, turn.restarts = false) :
    machine.run.warnings ++ (machine.performAll acts).2.map JournalEntry.level =
      List.replicate ((machine.turns acts).countP Turn.begins) "TRACE" ++
        (machine.performAll acts).1.run.warnings := by
  -- A halt that the first act has brought about is one that the other acts find.
  induction acts generalizing machine with
  | nil => exact List.append_nil _
  | cons act rest ih =>
    -- No turn restarts the program, neither the first one nor any behind it.
    rw [turns, List.forall_mem_cons] at goesOn
    obtain ⟨first, others⟩ := goesOn
    have said := Turn.levels_said first
    rw [← Turn.journal] at said
    generalize begun : (if Turn.begins ⟨machine, act⟩ then 1 else 0) = begins at said
    -- The turn that has begun an instruction is counted with those behind it.
    have count : (machine.turns (act :: rest)).countP Turn.begins =
        begins + ((machine.perform act).1.turns rest).countP Turn.begins := by
      rw [turns, List.countP_cons, begun, Nat.add_comm]
    calc machine.run.warnings ++ (machine.performAll (act :: rest)).2.map JournalEntry.level
        = (machine.run.warnings ++ (machine.perform act).2.map JournalEntry.level) ++
            ((machine.perform act).1.performAll rest).2.map JournalEntry.level := by
          -- The lines of the first act come before those of the others.
          rw [performAll, List.map_append, List.append_assoc]
      _ = List.replicate begins "TRACE" ++ ((machine.perform act).1.run.warnings ++
            ((machine.perform act).1.performAll rest).2.map JournalEntry.level) := by
          -- By the lemma on one turn its warning moves behind its announcement, where the others
          -- find it.
          rw [said, List.append_assoc]
          rfl
      _ = List.replicate begins "TRACE" ++
            (List.replicate (((machine.perform act).1.turns rest).countP Turn.begins) "TRACE" ++
              ((machine.perform act).1.performAll rest).1.run.warnings) := by
          -- What the others make of the halt that they find is known by induction.
          rw [ih _ others]
      _ = _ := by
          -- The announcements of the first turn and of the others stand side by side.
          rw [← List.append_assoc, List.replicate_append_replicate, count]
          rfl

end Machine

/-- What the lines about a cycle consist of, given the hardware that the cycle has found. -/
structure Hardware.SpeltOut (hardware : Hardware) : Prop where
  /-- The word at the counter is made of the two bytes that memory holds there. -/
  word : hardware.wordAhead.toNat = 256 * (hardware.memory.byteAt hardware.pc.toNat).toNat +
    (hardware.memory.byteAt (hardware.pc.toNat + 1)).toNat
  /-- An instruction is known there if there is room for its word and this is the one that spells
  it. -/
  known : ∀ operation : Operation, hardware.instruction? = some operation ↔
    hardware.pc.toNat < 0x0FFF ∧ operation.code = hardware.wordAhead.toNat
  /-- A fault finds the counter two addresses further on if there was room for a word. -/
  stopped : hardware.stoppedAt.toNat =
    if hardware.pc.toNat < 0x0FFF then hardware.pc.toNat + 2 else hardware.pc.toNat
  /-- The line about an instruction has the counter, the word and the mnemonic. -/
  traced : ∀ operation : Operation,
    (JournalEntry.executing hardware.pc hardware.wordAhead operation).line =
      "TRACE " ++ (Text.hexadecimal 3 hardware.pc.toNat ++ ": " ++
        Text.hexadecimal 4 hardware.wordAhead.toNat ++ " " ++ operation.mnemonic)
  /-- The line about a fault has the counter that the fault has found and the message. -/
  warned : ∀ fault : Fault, (JournalEntry.halted hardware.stoppedAt fault).line =
    "WARN " ++ ("halted at pc " ++ Text.hexadecimal 3 hardware.stoppedAt.toNat ++ ": " ++
      fault.message)

/-- The lines about a cycle are spelt out like this. -/
theorem Hardware.speltOut (hardware : Hardware) : hardware.SpeltOut where
  -- The two bytes of a word are read from memory, the upper one first.
  word := hardware.memory.toNat_wordAt hardware.pc.toNat
  known operation := by
    rw [instruction?_eq_some_iff, Operation.decode_eq_ok_iff]
  stopped := hardware.toNat_stoppedAt
  -- Level and text are joined by a blank.
  traced operation := by
    have level : "TRACE" ++ " " = "TRACE " := by decide
    exact congrArg (· ++ _) level
  warned fault := by
    have level : "WARN" ++ " " = "WARN " := by decide
    exact congrArg (· ++ _) level

namespace Machine

/--
The journal of a frame or of as many steps is what each cycle that is begun by a running machine is to
say, which is its instruction, if there is one, and then its fault, if it ends in one.

As long as a running machine is not restarted, its journal therefore has one line for each cycle that
gets as far as to carry out an instruction, and a warning behind them all if and only if the machine
has come to a halt.
-/
theorem journal_tells_of_every_cycle (machine : Machine) :
    (∀ count, (machine.frame count).2 =
      (machine.turns (List.replicate count .cycle)).flatMap Turn.said) ∧
    (∀ count, (machine.applyAll (List.replicate count .step)).2.2 =
      (machine.turns (List.replicate count .cycle)).flatMap Turn.said) ∧
    (∀ hardware : Hardware, hardware.SpeltOut) ∧
    (∀ acts : List Act, machine.run = .running →
      (∀ turn ∈ machine.turns acts, turn.restarts = false) →
        (machine.performAll acts).2.map JournalEntry.level =
          List.replicate ((machine.turns acts).countP Turn.begins) "TRACE" ++
            (machine.performAll acts).1.run.warnings) ∧
    ∀ events : List Event,
      (machine.applyAll events).2 = machine.performAll (events.flatMap Event.acts) := by
  -- A frame is as many cycles, and each of them says what its turn is to say.
  have cycles : ∀ count, (machine.frame count).2 =
      (machine.turns (List.replicate count .cycle)).flatMap Turn.said := by
    intro count
    rw [← performAll_replicate_cycle]
    exact machine.journal_performAll _
  refine ⟨cycles, ?_, Hardware.speltOut, ?_, machine.applyAll_eq_performAll⟩
  · -- Steps are cycles as well, so their journal is that of a frame.
    intro count
    rw [applyAll_eq_performAll, flatMap_acts_replicate_step, performAll_replicate_cycle]
    exact cycles count
  · -- A running machine has not been warned about, so its journal is all that there is.
    intro acts running goesOn
    have levels := machine.levels_performAll acts goesOn
    rw [running] at levels
    exact levels

/-- A program that sets a register and then returns from nowhere has its two instructions announced and
its halt reported, and whatever comes behind that adds no line. -/
theorem journal_tells_of_every_cycle_up_to_halt :
    ∃ machine : Machine,
      (machine.frame 7).2 = (machine.turns (List.replicate 7 .cycle)).flatMap Turn.said ∧
      (machine.performAll [.cycle, .tick, .cycle, .load (.error (.tooLarge 4000)), .cycle]).1.run =
        .halted .noPendingCall ∧
      (machine.performAll
          [.cycle, .tick, .cycle, .load (.error (.tooLarge 4000)), .cycle]).2.map
        JournalEntry.level = ["TRACE", "TRACE", "WARN"] := by
  let machine : Machine := ((powerOn 0).load [0x60, 0x07, 0x00, 0xEE]).machine
  let acts : List Act := [.cycle, .tick, .cycle, .load (.error (.tooLarge 4000)), .cycle]
  -- The program is run once, and the frame and the levels follow from the theorem.
  obtain ⟨frames, -, -, levels, -⟩ := journal_tells_of_every_cycle machine
  have ⟨running, goesOn, begun, halted⟩ :
      machine.run = .running ∧
        (∀ turn ∈ machine.turns acts, turn.restarts = false) ∧
        (machine.turns acts).countP Turn.begins = 2 ∧
        (machine.performAll acts).1.run = .halted .noPendingCall := by
    decide +kernel
  refine ⟨machine, frames 7, halted, ?_⟩
  rw [levels acts running goesOn, begun, halted]
  rfl

end Machine

end ChipEight
