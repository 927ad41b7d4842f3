import ChipEight.Proofs.Machine.Course
import ChipEight.Proofs.Machine.Halt
import ChipEight.Proofs.Operation.Control
import ChipEight.Proofs.Operation.Footprint

/-! The call stack against the calls and returns that a run has carried out. -/

namespace ChipEight

namespace Operation

/-- Whether an instruction is a call or a return. -/
def movesCalls : Operation → Bool
  | ret | call _ => true
  | _ => false

/-- The calls that are pending after an instruction that was found at an address, each by the
address at which it was found itself and the oldest first. -/
def track (operation : Operation) (address : Nat) (calls : List Nat) : List Nat :=
  match operation with
  -- A return is made from the latest call.
  | ret => calls.dropLast
  | call _ => calls ++ [address]
  | _ => calls

/-- Whatever is neither a call nor a return leaves the call stack alone. -/
theorem stack_notMem_footprint {operation : Operation} (other : operation.movesCalls = false)
    (hardware : Hardware) : Place.stack ∉ operation.footprint hardware := by
  -- The only long footprints are made of bytes and of registers.
  cases operation <;> simp_all [movesCalls, footprint, Place.bytes]

/-- If the pending calls are to be returned to behind their addresses, so they are after an
instruction. -/
theorem map_toNat_pending {operation : Operation} {hardware : Hardware} {address : Nat}
    {calls : List Nat} (behind : hardware.pc.toNat = address + 2)
    (listed : hardware.stack.toList.map UInt16.toNat = calls.map (· + 2)) :
    (operation.pending hardware).map UInt16.toNat =
      (operation.track address calls).map (· + 2) := by
  -- A call puts the address behind its word on the stack, which is two further on than its own.
  cases operation with
  | ret => simp only [pending, track, List.map_dropLast, listed]
  | call target => simp [pending, track, listed, behind]
  | _ => exact listed

end Operation

namespace Machine

/-- The calls that are pending after a turn. -/
def Turn.track (calls : List Nat) (turn : Turn) : List Nat :=
  -- A cycle that halts the machine counts for nothing, although it may have found a call.
  match turn.executed? with
  | some operation => operation.track turn.found.hardware.pc.toNat calls
  | none => calls

/-- The calls that are pending after several turns if there were none before. -/
def pendingCalls (turns : List Turn) : List Nat :=
  turns.foldl Turn.track []

/-- The last of several turns decides about the calls that are pending after the others. -/
theorem pendingCalls_concat (turns : List Turn) (turn : Turn) :
    pendingCalls (turns ++ [turn]) = turn.track (pendingCalls turns) := by
  simp [pendingCalls, List.foldl_append]

/-- The call stack lists where each of the pending calls will be returned to. -/
def Lists (machine : Machine) (calls : List Nat) : Prop :=
  machine.hardware.stack.toList.map UInt16.toNat = calls.map (· + 2)

/-- There are as many return addresses as there are pending calls. -/
theorem Lists.size_eq {machine : Machine} {calls : List Nat} (listed : machine.Lists calls) :
    machine.hardware.stack.size = calls.length := by
  -- The two lists are as long as each other, and the stack is as large as its list is long.
  have lengths := congrArg List.length listed
  rwa [List.length_map, List.length_map, ReturnStack.length_toList] at lengths

/-- A fresh program has no pending calls, whatever the places of the stack still hold. -/
theorem lists_of_restarts {turn : Turn} (restarts : turn.restarts = true) :
    turn.left.Lists [] := by
  obtain ⟨machine, act⟩ := turn
  -- A cycle is no restart.
  have idle : act ≠ .cycle := by
    rintro rfl
    cases restarts
  -- Of the acts other than cycles those that restart the program have cleared the stack.
  obtain ⟨-, ⟨-, -, stack⟩ | ⟨goesOn, -⟩⟩ := machine.perform_of_ne_cycle idle
  · have cleared : (Turn.left ⟨machine, act⟩).hardware.stack = machine.hardware.stack.clear := stack
    rw [Lists, cleared, ReturnStack.toList_clear]
    rfl
  · rw [restarts] at goesOn
    cases goesOn

/-- What halts a running machine is a cycle. -/
theorem run_perform_eq_halted_iff {machine : Machine} (running : machine.run = .running)
    (act : Act) (fault : Fault) :
    (machine.perform act).1.run = .halted fault ↔
      act = .cycle ∧ machine.step.1.run = .halted fault := by
  -- Ticks, keys and the screen leave the run alone, and restarts set it going.
  constructor
  · intro halted
    by_cases idle : act = .cycle
    · subst idle
      exact ⟨rfl, halted⟩
    · -- Any other act leaves the machine running.
      obtain ⟨-, ⟨-, goes, -⟩ | ⟨-, goes, -⟩⟩ := machine.perform_of_ne_cycle idle
      · rw [goes] at halted
        cases halted
      · rw [goes, running] at halted
        cases halted
  · rintro ⟨rfl, halted⟩
    exact halted

/-- The call stack of a program that goes on is left alone unless a call or a return is carried
out. -/
theorem stack_perform {machine : Machine} {act : Act}
    (goesOn : Turn.restarts ⟨machine, act⟩ = false)
    (others : ∀ operation, Turn.executed? ⟨machine, act⟩ = some operation →
      operation.movesCalls = false) :
    (machine.perform act).1.hardware.stack = machine.hardware.stack := by
  -- An act other than a cycle leaves the stack alone unless it is a restart.
  by_cases idle : act = .cycle
  case neg =>
    obtain ⟨-, ⟨restarts, -⟩ | ⟨-, -, stack⟩⟩ := machine.perform_of_ne_cycle idle
    · rw [goesOn] at restarts
      cases restarts
    · exact stack
  subst idle
  show machine.step.1.hardware.stack = machine.hardware.stack
  rcases machine.executed?_cycle with ⟨operation, after, executed, -, carriedOut, result⟩ |
    ⟨-, unchanged⟩
  · -- The stack is a place outside of the footprint, and the fetch has not touched it either.
    rw [result]
    have outside := Operation.stack_notMem_footprint (others operation executed)
    exact (Operation.same_of_effect carriedOut (outside machine.hardware.passed)).symm
  · -- A cycle that carries nothing out changes the counter alone.
    rw [unchanged]

/-- The calls that a turn leaves pending are those listed afterwards. -/
theorem Lists.track {turn : Turn} {calls : List Nat} (listed : turn.found.Lists calls)
    (goesOn : turn.restarts = false) : turn.left.Lists (turn.track calls) := by
  -- What counts is whether the turn carries an instruction out.
  obtain ⟨machine, act⟩ := turn
  cases executed : Turn.executed? ⟨machine, act⟩ with
  | none =>
    -- Nothing was carried out, so the stack is the one before.
    have kept := stack_perform goesOn fun operation found => by
      rw [executed] at found
      cases found
    simp only [Lists, Turn.track, Turn.left, executed, kept]
    exact listed
  | some operation =>
    -- Only a cycle can have carried it out, and its pending calls are known.
    by_cases idle : act = .cycle
    case neg =>
      rw [(machine.perform_of_ne_cycle idle).1] at executed
      cases executed
    subst idle
    obtain ⟨behind, early, carriedOut⟩ := effect_of_executed? executed
    have stack := (Operation.control_of_effect (by omega) (by omega) carriedOut).2
    have left : Turn.left ⟨machine, .cycle⟩ = machine.step.1 := rfl
    simp only [Lists, Turn.track, executed, left, stack]
    exact Operation.map_toNat_pending behind listed

/-- At every point of a run that began without calls, the call stack lists those that the turns
since the last restart have left pending. -/
theorem Lists.performAll {machine : Machine} (empty : machine.Lists []) (acts : List Act) :
    (machine.performAll acts).1.Lists (pendingCalls (sinceRestart (machine.turns acts))) := by
  -- The last turn either restarts the program or goes on from what the turns before it have left.
  refine performAll_of_turn (fun reached past => reached.Lists (pendingCalls (sinceRestart past)))
    empty ?_ acts
  intro past turn listed
  cases restarts : turn.restarts with
  | true =>
    rw [sinceRestart_concat_of_restarts _ restarts]
    exact lists_of_restarts restarts
  | false =>
    rw [sinceRestart_concat_of_goesOn _ restarts, pendingCalls_concat]
    exact Lists.track listed restarts

/-- A return that is carried out leads behind the latest of the pending calls. -/
theorem Lists.returned {machine : Machine} {calls : List Nat} (listed : machine.Lists calls)
    (executed : Turn.executed? ⟨machine, .cycle⟩ = some .ret) :
    ∃ earlier latest, calls = earlier ++ [latest] ∧
      machine.step.1.hardware.pc.toNat = latest + 2 := by
  -- The address that is taken off the stack is the last one listed.
  obtain ⟨-, -, carriedOut⟩ := effect_of_executed? executed
  obtain ⟨address, stack, entries, left⟩ := Operation.ok_of_ret carriedOut
  have split : machine.hardware.stack.toList = stack.toList ++ [address] := entries
  rw [Lists, split, List.map_append, eq_comm] at listed
  obtain ⟨earlier, last, rfl, -, ends⟩ := List.map_eq_append_iff.mp listed
  obtain ⟨latest, rfl, behind⟩ := List.map_eq_singleton_iff.mp ends
  refine ⟨earlier, latest, rfl, ?_⟩
  rw [left, behind]

/-- A call halts a running machine exactly when all places of the call stack are taken. -/
theorem halts_tooManyCalls_iff {machine : Machine} (running : machine.run = .running) :
    machine.step.1.run = .halted (.tooManyCalls 16) ↔
      (∃ target, machine.hardware.instruction? = some (.call target)) ∧
        machine.hardware.stack.size = 16 := by
  -- The cause of a halt tells which word was found, and the other way round.
  have cycle := cycle_step running
  constructor
  · intro halted
    cases cycle.haltedBy halted with
    | call room target spelt full =>
      have read := (Operation.decode_eq_ok_iff _ (.call target)).mpr spelt.symm
      exact ⟨⟨target, (Hardware.instruction?_eq_some_iff ..).mpr ⟨room, read⟩⟩, full⟩
  · rintro ⟨⟨target, found⟩, full⟩
    obtain ⟨room, read⟩ := (Hardware.instruction?_eq_some_iff ..).mp found
    have spelt := (Operation.decode_eq_ok_iff ..).mp read
    exact Hardware.HaltedBy.halted (.call room target spelt.symm full) cycle

/-- A return halts a running machine exactly when no call is pending. -/
theorem halts_noPendingCall_iff {machine : Machine} (running : machine.run = .running) :
    machine.step.1.run = .halted .noPendingCall ↔
      machine.hardware.instruction? = some .ret ∧ machine.hardware.stack.size = 0 := by
  -- The cause is that of a return that finds the stack empty.
  have cycle := cycle_step running
  constructor
  · intro halted
    cases cycle.haltedBy halted with
    | ret room spelt empty =>
      have read := (Operation.decode_eq_ok_iff _ .ret).mpr spelt.symm
      exact ⟨(Hardware.instruction?_eq_some_iff ..).mpr ⟨room, read⟩, empty⟩
  · rintro ⟨found, empty⟩
    obtain ⟨room, read⟩ := (Hardware.instruction?_eq_some_iff ..).mp found
    have spelt := (Operation.decode_eq_ok_iff ..).mp read
    exact Hardware.HaltedBy.halted (.ret room spelt.symm empty) cycle

/-- How the calls of a program are accounted for at a point of its run, given the addresses of the
calls that are pending there, the oldest first. -/
structure KeepsCalls (machine : Machine) (calls : List Nat) : Prop where
  /-- The call stack holds the addresses behind the pending calls. -/
  listed : machine.Lists calls
  /-- A return that is carried out next continues behind the latest of them. -/
  returned : Turn.executed? ⟨machine, .cycle⟩ = some .ret →
    ∃ earlier latest, calls = earlier ++ [latest] ∧
      machine.step.1.hardware.pc.toNat = latest + 2
  /-- Whatever comes next, only calls, returns and restarts change the call stack. -/
  kept : ∀ act, Turn.restarts ⟨machine, act⟩ = false →
    (∀ operation, Turn.executed? ⟨machine, act⟩ = some operation →
      operation.movesCalls = false) →
    (machine.perform act).1.hardware.stack = machine.hardware.stack
  /-- A call that comes next is one too many exactly when sixteen are pending. -/
  overflow : machine.run = .running → ∀ act,
    ((machine.perform act).1.run = .halted (.tooManyCalls 16) ↔
      act = .cycle ∧ (∃ target, machine.hardware.instruction? = some (.call target)) ∧
        calls.length = 16)
  /-- A return that comes next has nowhere to go exactly when none is pending. -/
  underflow : machine.run = .running → ∀ act,
    ((machine.perform act).1.run = .halted .noPendingCall ↔
      act = .cycle ∧ machine.hardware.instruction? = some .ret ∧ calls = [])
  /-- A cycle that halts the machine keeps all entries of the call stack. -/
  halted : ∀ fault, machine.step.1.run = .halted fault →
    machine.step.1.hardware.stack = machine.hardware.stack

/-- Calls that are listed are accounted for. -/
theorem Lists.keepsCalls {machine : Machine} {calls : List Nat} (listed : machine.Lists calls) :
    machine.KeepsCalls calls where
  listed := listed
  returned := listed.returned
  kept _ := stack_perform
  overflow running act := by
    -- The number of addresses on the stack is the number of pending calls.
    rw [run_perform_eq_halted_iff running, halts_tooManyCalls_iff running, listed.size_eq]
  underflow running act := by
    rw [run_perform_eq_halted_iff running, halts_noPendingCall_iff running, listed.size_eq,
      List.length_eq_zero_iff]
  halted fault stopped := by
    -- A cycle that halts the machine has carried out nothing.
    refine @stack_perform machine .cycle rfl fun operation executed => ?_
    rcases machine.executed?_cycle with ⟨_, _, _, _, _, result⟩ | ⟨none, -⟩
    · rw [result] at stopped
      cases stopped
    · rw [executed] at none
      cases none

/--
In every run from power-on, cycle by cycle, the calls are accounted for by those that were carried out
since the last restart and not returned from.

An instruction is carried out exactly if a cycle finds it and nothing stops it, a load restarts the
program exactly if the host is told of its success, and what a host can ask of the machine is nothing
but such runs.
-/
theorem performAll_powerOn_keepsCalls (random : Random) :
    (∀ acts : List Act,
      (performAll ⟨Hardware.powerOn random, .running⟩ acts).1.KeepsCalls
        (pendingCalls (sinceRestart (turns ⟨Hardware.powerOn random, .running⟩ acts)))) ∧
    (∀ turn : Turn, turn.CarriesOut) ∧
    (∀ (machine : Machine) (event : Event), machine.Tells event) ∧
    ∀ events : List Event, (applyAll ⟨Hardware.powerOn random, .running⟩ events).2 =
      performAll ⟨Hardware.powerOn random, .running⟩ (events.flatMap Event.acts) := by
  -- The account is kept by an invariant of runs, and the other clauses hold of all turns and
  -- requests.
  refine ⟨?_, Turn.carriesOut, tells, applyAll_eq_performAll _⟩
  intro acts
  -- No call is pending at power-on.
  have empty : Lists ⟨Hardware.powerOn random, .running⟩ [] :=
    congrArg _ ReturnStack.toList_empty
  exact (empty.performAll acts).keepsCalls

/-- A program that does nothing but call its own beginning has two calls pending after two cycles, and
its load is told to have succeeded. -/
theorem performAll_powerOn_keepsCalls_of_recursion :
    KeepsCalls ((powerOn 0).performAll
      [.cycle, .load (Rom.ofBytes [0x22, 0x00]), .cycle, .tick, .cycle]).1 [0x200, 0x200] ∧
    ∃ consumed, ((powerOn 0).apply (.load [0x22, 0x00])).outcome = .load (.ok ()) consumed := by
  obtain ⟨kept, -, told, -⟩ := performAll_powerOn_keepsCalls (Random.ofSeed 0)
  -- The two calls are found by running the program, with the tick between them.
  have pending : pendingCalls (sinceRestart (turns (powerOn 0)
      [.cycle, .load (Rom.ofBytes [0x22, 0x00]), .cycle, .tick, .cycle])) = [0x200, 0x200] := by
    decide +kernel
  exact ⟨pending ▸ kept _, (told _ _).loaded.mpr ⟨_, rfl⟩⟩

end Machine

end ChipEight
