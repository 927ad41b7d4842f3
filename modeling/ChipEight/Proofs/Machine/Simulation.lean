import Mathlib.Data.List.Forall2
import ChipEight.Machine.Event
import ChipEight.Proofs.Machine.Cycle

/-! Hardware in two states that no cycle and no request can tell apart. -/

namespace ChipEight

/-- Two attempts end alike if both succeed with the same value or both fail with the same fault, and
leave related parts behind. -/
inductive Attempt.EndAlike {part value : Type} (related : part → part → Prop) :
    EStateM.Result Fault part value → EStateM.Result Fault part value → Prop
  /-- Both succeed. -/
  | ok (answer : value) {first second : part} (kept : related first second) :
    EndAlike related (.ok answer first) (.ok answer second)
  /-- Both fail. -/
  | error (fault : Fault) {first second : part} (kept : related first second) :
    EndAlike related (.error fault first) (.error fault second)

/-- An instruction ends alike on related hardware if it meets the same obstacle there and leaves
related hardware wherever it is carried out. -/
theorem Operation.endAlike_effect {operation : Operation} {related : Hardware → Hardware → Prop}
    {first second : Hardware} (kept : related first second)
    (obstacle : operation.obstacle first = operation.obstacle second)
    (carriedOut : ∀ left right, operation.effect.run first = .ok () left →
      operation.effect.run second = .ok () right → related left right) :
    Attempt.EndAlike related (operation.effect.run first) (operation.effect.run second) := by
  -- What stops the instruction is its obstacle, on either hardware, and the two are the same.
  have one := operation.stoppedBy_effect first
  have two := operation.stoppedBy_effect second
  rw [← obstacle] at two
  cases found : operation.obstacle first with
  | some fault =>
    -- The fault comes before any change.
    rw [found] at one two
    have left : operation.effect.run first = .error fault first := one
    have right : operation.effect.run second = .error fault second := two
    rw [left, right]
    exact .error fault kept
  -- Without an obstacle both come to their end, and what they leave is related by assumption.
  | none =>
    rw [found] at one two
    obtain ⟨_, left, leftDone⟩ := one
    obtain ⟨_, right, rightDone⟩ := two
    rw [leftDone, rightDone]
    exact .ok () (carriedOut left right leftDone rightDone)

/-- What it takes for a relation between states of hardware to be kept by everything that a machine
does, without making a difference to its host. -/
structure Hardware.Simulation (related : Hardware → Hardware → Prop) : Prop where
  /-- Related states fetch from the same address. -/
  counter : ∀ {first second}, related first second → first.pc = second.pc
  /-- Related states have the same memory. -/
  memory : ∀ {first second}, related first second → first.memory = second.memory
  /-- They stay related when a word is passed. -/
  passed : ∀ {first second}, related first second → related first.passed second.passed
  /-- Every instruction ends alike. -/
  effect : ∀ {first second}, related first second → ∀ operation : Operation,
    Attempt.EndAlike related (operation.effect.run first) (operation.effect.run second)
  /-- They stay related when the timers tick. -/
  tick : ∀ {first second}, related first second → related first.tick second.tick
  /-- They stay related when the keys change. -/
  keys : ∀ {first second}, related first second → ∀ event : Keypad.Event,
    related { first with keypad := first.keypad.apply event }
      { second with keypad := second.keypad.apply event }
  /-- They stay related when the screen changes. -/
  screen : ∀ {first second}, related first second → ∀ event : Screen.Event,
    related { first with screen := first.screen.apply event }
      { second with screen := second.screen.apply event }
  /-- They stay related when both are reset. -/
  reset : ∀ {first second}, related first second → related first.reset second.reset
  /-- They stay related when both are given the same memory. -/
  given : ∀ {first second}, related first second → ∀ memory : Memory,
    related { first with memory } { second with memory }

namespace Machine

variable {related : Hardware → Hardware → Prop}

/-- Machines with related hardware that both run or are halted for the same fault. -/
structure Alike (related : Hardware → Hardware → Prop) (first second : Machine) : Prop where
  /-- The hardware is related. -/
  hardware : related first.hardware second.hardware
  /-- Both run, or both are halted for the same fault. -/
  run : first.run = second.run

/-- Replies by which a host is told the same, with machines that are alike. -/
structure Reply.Alike (related : Hardware → Hardware → Prop) (first second : Reply) : Prop where
  /-- The host is told the same. -/
  outcome : first.outcome = second.outcome
  /-- The machines are alike. -/
  machine : Machine.Alike related first.machine second.machine
  /-- The journals gained the same. -/
  journal : first.journal = second.journal

/-- The replies to several requests, each made of the machine that the one before it has left. -/
def replies (machine : Machine) : List Event → List Reply
  | [] => []
  | event :: rest => machine.apply event :: (machine.apply event).machine.replies rest

/-- A cycle of related hardware leaves machines alike and is journalled in the same way if the
instruction that is read ends alike. -/
theorem Alike.advance_of_effect {first second : Hardware} (kept : related first second)
    (counter : ∀ {first second}, related first second → first.pc = second.pc)
    (memory : first.memory = second.memory) (passed : related first.passed second.passed)
    (effect : first.pc.toNat < 0x0FFF → ∀ operation : Operation,
      Operation.decode first.wordAhead = .ok operation →
        Attempt.EndAlike related (operation.effect.run first.passed)
          (operation.effect.run second.passed)) :
    Alike related (Machine.advance first).1 (Machine.advance second).1 ∧
      (Machine.advance first).2 = (Machine.advance second).2 := by
  -- Both fetch the same word from the same address, so they end in the same way.
  have same := counter kept
  have word : first.wordAhead = second.wordAhead := by
    rw [Hardware.wordAhead, Hardware.wordAhead, same, memory]
  -- Without room for a word both stay as they are and report the same address.
  by_cases late : 0x0FFF ≤ first.pc.toNat
  · simp only [Machine.advance, Hardware.run_fetch_of_ge late,
      Hardware.run_fetch_of_ge (same ▸ late), same, halt]
    exact ⟨⟨kept, rfl⟩, trivial⟩
  · have room : first.pc.toNat < 0x0FFF := Nat.not_le.mp late
    simp only [Machine.advance, Hardware.run_fetch_of_lt room,
      Hardware.run_fetch_of_lt (same ▸ room), same]
    rw [← word]
    cases read : Operation.decode first.wordAhead with
    -- The word is unknown to both, which have passed it by then.
    | error fault =>
      simp only [halt, counter passed]
      exact ⟨⟨passed, rfl⟩, trivial⟩
    -- The instruction ends alike, and from then on both do the same with what has come of it.
    | ok operation =>
      have ends := effect room operation read
      generalize left : operation.effect.run first.passed = firstEnd at ends
      generalize right : operation.effect.run second.passed = secondEnd at ends
      cases ends with
      | ok answer kept =>
        simp only [left, right]
        exact ⟨⟨kept, rfl⟩, trivial⟩
      | error fault kept =>
        simp only [left, right, halt, counter kept]
        exact ⟨⟨kept, rfl⟩, trivial⟩

variable (simulation : Hardware.Simulation related)
include simulation

/-- A cycle of related hardware leaves machines alike and is journalled in the same way. -/
theorem Alike.advance {first second : Hardware} (kept : related first second) :
    Alike related (advance first).1 (advance second).1 ∧
      (advance first).2 = (advance second).2 :=
  Alike.advance_of_effect kept simulation.counter (simulation.memory kept) (simulation.passed kept)
    fun _ operation _ => simulation.effect (simulation.passed kept) operation

variable {first second : Machine}

/-- A step keeps machines alike and is journalled in the same way. -/
theorem Alike.step (alike : Alike related first second) :
    Alike related first.step.1 second.step.1 ∧ first.step.2 = second.step.2 := by
  cases run : first.run with
  -- Both run, so that either step is a cycle.
  | running =>
    have left : first.step = Machine.advance first.hardware := by simp only [Machine.step, run]
    have right : second.step = Machine.advance second.hardware := by
      simp only [Machine.step, ← alike.run, run]
    rw [left, right]
    exact Alike.advance simulation alike.hardware
  | halted fault =>
    -- Neither of them takes a step.
    rw [step_of_halted run, step_of_halted (alike.run.symm.trans run)]
    exact ⟨alike, rfl⟩

/-- A frame keeps machines alike and is journalled in the same way, however many cycles it has. -/
theorem Alike.frame (alike : Alike related first second) (count : Nat) :
    Alike related (first.frame count).1 (second.frame count).1 ∧
      (first.frame count).2 = (second.frame count).2 := by
  -- The first cycle of a frame is a step, and the others make up a shorter frame.
  induction count generalizing first second with
  | zero => exact ⟨alike, rfl⟩
  | succ count ih =>
    obtain ⟨next, lines⟩ := alike.step simulation
    obtain ⟨final, more⟩ := ih next
    simp only [frame_succ, lines, more]
    exact ⟨final, trivial⟩

/-- Loading an image or failing to have one keeps machines alike and is answered in the same way. -/
theorem Alike.loadResult (alike : Alike related first second) (image : Except LoadError Rom)
    (consumed : Nat) :
    Reply.Alike related (first.loadResult image consumed) (second.loadResult image consumed) := by
  cases image with
  | error error => exact ⟨rfl, alike, rfl⟩
  -- Both are reset before they are given the memory of the same image.
  | ok rom =>
    simp only [Machine.loadResult, insert_eq]
    exact ⟨rfl, ⟨simulation.given (simulation.reset alike.hardware) _, rfl⟩, rfl⟩

/-- Every request keeps machines alike and is answered in the same way. -/
theorem Alike.apply (alike : Alike related first second) (event : Event) :
    Reply.Alike related (first.apply event) (second.apply event) := by
  -- Loads differ in where their image comes from, which is settled before any machine is looked at.
  cases event with
  | load bytes => exact alike.loadResult simulation _ _
  | loadFrom source reported => exact alike.loadResult simulation _ _
  | loadFile file =>
    cases file with
    | error failure => exact alike.loadResult simulation (.error (.unreadable failure)) 0
    | ok opened => exact alike.loadResult simulation (Rom.ofSource _ _).1 _
  | reset => exact ⟨rfl, ⟨simulation.reset alike.hardware, rfl⟩, rfl⟩
  -- The host is told whether the machine still runs, which is the same for both.
  | step =>
    obtain ⟨next, lines⟩ := alike.step simulation
    exact ⟨congrArg (Outcome.running ∘ Run.isRunning) next.run, next, lines⟩
  | frame count =>
    obtain ⟨next, lines⟩ := alike.frame simulation count
    exact ⟨congrArg (Outcome.running ∘ Run.isRunning) next.run, next, lines⟩
  | tick => exact ⟨rfl, ⟨simulation.tick alike.hardware, alike.run⟩, rfl⟩
  | keys event => exact ⟨rfl, ⟨simulation.keys alike.hardware event, alike.run⟩, rfl⟩
  | screen event => exact ⟨rfl, ⟨simulation.screen alike.hardware event, alike.run⟩, rfl⟩

/-- Any number of requests are answered in the same way by machines that are alike. -/
theorem Alike.replies (alike : Alike related first second) (events : List Event) :
    List.Forall₂ (Reply.Alike related) (first.replies events) (second.replies events) := by
  -- The requests after the first are made of machines that are alike again.
  induction events generalizing first second with
  | nil => exact .nil
  | cons event rest ih =>
    have reply := alike.apply simulation event
    exact .cons reply (ih reply.machine)

end Machine

end ChipEight
