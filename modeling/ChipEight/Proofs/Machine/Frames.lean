import Mathlib.Algebra.Ring.Nat
import ChipEight.Proofs.Machine.Course

/-! A frame is nothing but its steps, so it makes no difference how a run is split into frames. -/

namespace ChipEight.Machine

/-- A long frame is a shorter one followed by a frame of the remaining cycles. -/
theorem frame_add (machine : Machine) (first second : Nat) :
    machine.frame (first + second) =
      (((machine.frame first).1.frame second).1,
        (machine.frame first).2 ++ ((machine.frame first).1.frame second).2) := by
  -- A frame is a run of cycles, and a run can be cut behind any of its acts.
  have cut := machine.performAll_append (List.replicate first .cycle) (List.replicate second .cycle)
  rw [List.replicate_append_replicate] at cut
  simpa only [performAll_replicate_cycle] using cut

/-- Asking for one step after the other does what a frame of as many cycles does. -/
theorem applyAll_replicate_step (machine : Machine) (count : Nat) :
    (machine.applyAll (List.replicate count .step)).2 = machine.frame count := by
  -- Each of the requests is met by one cycle.
  rw [applyAll_eq_performAll, flatMap_acts_replicate_step, performAll_replicate_cycle]

/-- Whoever asks for one step after the other is told in the end what is told about the frame. -/
theorem getLast?_outcomes_replicate_step (machine : Machine) (count : Nat) :
    (machine.applyAll (List.replicate (count + 1) .step)).1.getLast? =
      some (machine.apply (.frame (count + 1))).outcome := by
  -- The last of several answers is the last one behind the first step.
  induction count generalizing machine with
  | zero => simp [applyAll, apply, frame_succ]
  | succ count ih =>
    have rest := ih machine.step.1
    have longer : (machine.apply (.frame (count + 1 + 1))).outcome =
        (machine.step.1.apply (.frame (count + 1))).outcome := by
      simp only [apply, machine.frame_succ (count + 1)]
    rw [List.replicate_succ, longer]
    show (_ :: (machine.step.1.applyAll (List.replicate (count + 1) .step)).1).getLast? = _
    rw [List.getLast?_cons, rest, Option.getD_some]

/-- Frames that come one after the other do what a single frame of all their cycles does. -/
theorem applyAll_map_frame (machine : Machine) (counts : List Nat) :
    (machine.applyAll (counts.map .frame)).2 = machine.frame counts.sum := by
  -- The frames behind the first one find the machine that it has left.
  induction counts generalizing machine with
  | nil => rfl
  | cons count rest ih =>
    rw [List.sum_cons, frame_add, ← ih]
    rfl

/-- Once a frame has halted the machine, more cycles make no difference to it. -/
theorem frame_eq_of_halted {machine : Machine} {few : Nat} {fault : Fault}
    (halted : (machine.frame few).1.run = .halted fault) {count : Nat} (enough : few ≤ count) :
    machine.frame count = machine.frame few := by
  -- The cycles behind those that were needed find a halted machine.
  obtain ⟨more, rfl⟩ := Nat.exists_eq_add_of_le enough
  rw [frame_add, frame_of_halted halted, List.append_nil]

/-- A frame leaves the machine and the journal of its steps and tells what the last of them does,
consecutive frames make up one frame of all their cycles, and no frame goes on behind a halt. -/
theorem frames_are_their_steps (machine : Machine) :
    (∀ count, machine.frame count = (machine.applyAll (List.replicate count .step)).2) ∧
    (∀ count, (machine.applyAll (List.replicate (count + 1) .step)).1.getLast? =
      some (machine.apply (.frame (count + 1))).outcome) ∧
    (∀ first second, machine.frame (first + second) =
      (machine.applyAll [.frame first, .frame second]).2) ∧
    (∀ counts : List Nat,
      machine.frame counts.sum = (machine.applyAll (counts.map .frame)).2) ∧
    ∀ (few : Nat) (fault : Fault), (machine.frame few).1.run = .halted fault →
      ∀ count ≥ few, machine.frame count = machine.frame few := by
  refine ⟨?_, machine.getLast?_outcomes_replicate_step, ?_, ?_, ?_⟩
  · -- The statement goes from the frame to its steps, and the lemma the other way.
    intro count
    exact (machine.applyAll_replicate_step count).symm
  · -- Two frames are the shortest case of several.
    intro first second
    have frames := machine.applyAll_map_frame [first, second]
    exact frames.symm
  · intro counts
    exact (machine.applyAll_map_frame counts).symm
  · -- The frame that has halted the machine is a part of the longer one.
    intro few fault halted count enough
    exact frame_eq_of_halted halted enough

/-- A program that sets a register and comes to an end halts in its second cycle, so any longer
frame ends like one of two. -/
theorem frames_are_their_steps_behind_a_halt :
    ∃ machine : Machine, (machine.frame 1).1.run = .running ∧
      (machine.frame 2).1.run = .halted (.unknownWord 0) ∧
      machine.frame 1000000 = machine.frame 2 := by
  refine ⟨((powerOn 0).load [0x60, 0x07]).machine, ?_⟩
  -- The halt is found by running two cycles, and a million are not run.
  have ⟨running, halted⟩ :
      (((powerOn 0).load [0x60, 0x07]).machine.frame 1).1.run = .running ∧
        (((powerOn 0).load [0x60, 0x07]).machine.frame 2).1.run =
          .halted (.unknownWord 0) := by decide +kernel
  obtain ⟨-, -, -, -, same⟩ := frames_are_their_steps ((powerOn 0).load [0x60, 0x07]).machine
  exact ⟨running, halted, same 2 _ halted 1000000 (by decide)⟩

end ChipEight.Machine
