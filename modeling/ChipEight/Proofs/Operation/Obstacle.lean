import ChipEight.Operation.Effect
import ChipEight.Proofs.Attempt

/-! An instruction is carried out in full, or not at all and for a reason known beforehand. -/

namespace ChipEight

/-- Why a range of memory cannot be used, if it does not lie in memory as a whole. -/
def Memory.overrun (address : UInt16) (length : Nat) : Option Fault :=
  if 4096 < address.toNat + length then some (.outsideMemory (max address.toNat 4096)) else none

/-- Reading is stopped by a range that leaves memory and by nothing else. -/
theorem Memory.stoppedBy_readBytes {part : Type} (memory : Memory) (address : UInt16)
    (length : Nat) (before : part) :
    (Attempt.ofExcept (memory.readBytes address length)).StoppedBy before
      (overrun address length) := by
  -- The check of the range is the only one.
  by_cases outside : 4096 < address.toNat + length
  · rw [overrun, if_pos outside, readBytes_of_gt memory outside]
    rfl
  · rw [overrun, if_neg outside, readBytes_of_le memory (by omega)]
    exact ⟨_, before, rfl⟩

/-- Writing is stopped by a range that leaves memory and by nothing else. -/
theorem Memory.stoppedBy_writeBytes (address : UInt16) (bytes : List UInt8) (before : Memory) :
    (writeBytes address bytes).StoppedBy before (overrun address bytes.length) := by
  -- The check of the range comes before the first byte is written.
  by_cases outside : 4096 < address.toNat + bytes.length
  · rw [overrun, if_pos outside]
    exact run_writeBytes_of_gt before outside
  · rw [overrun, if_neg outside]
    exact ⟨(), _, run_writeBytes_of_le before (by omega)⟩

/-- Recording a call is stopped by a full stack and by nothing else. -/
theorem ReturnStack.stoppedBy_push (address : UInt16) (before : ReturnStack) :
    (push address).StoppedBy before
      (if before.size = 16 then some (.tooManyCalls 16) else none) := by
  -- A stack that is not full has a place left, as it never has more than sixteen.
  by_cases full : before.size = 16
  · rw [if_pos full]
    exact run_push_of_full full address
  · rw [if_neg full]
    have room : before.size < 16 := by have := before.size_le; omega
    obtain ⟨next, pushed, -⟩ := run_push_of_lt room address
    exact ⟨(), next, pushed⟩

/-- Going back is stopped by an empty stack and by nothing else. -/
theorem ReturnStack.stoppedBy_pop (before : ReturnStack) :
    pop.StoppedBy before (if before.size = 0 then some .noPendingCall else none) := by
  -- A stack that is not empty has a latest address.
  by_cases none : before.size = 0
  · rw [if_pos none]
    exact run_pop_of_zero none
  · rw [if_neg none]
    obtain ⟨address, next, popped, -⟩ := run_pop_of_pos (Nat.pos_of_ne_zero none)
    exact ⟨address, next, popped⟩

/-- Drawing at the index is stopped by a sprite that leaves memory and by nothing else. -/
theorem Hardware.stoppedBy_drawAtIndex (x y : UInt8) (height : Nat) (before : Hardware) :
    (drawAtIndex x y height).StoppedBy before (Memory.overrun before.index height) := by
  -- The sprite is read before the screen is touched, and the screen takes any sprite.
  refine .bind_get (.bind (before.memory.stoppedBy_readBytes _ _ before) ?_)
  intro bytes state
  exact ⟨_, _, rfl⟩

namespace Operation

/-- What keeps an instruction from being carried out, if anything does. -/
def obstacle (operation : Operation) (hardware : Hardware) : Option Fault :=
  match operation with
  | ret => if hardware.stack.size = 0 then some .noPendingCall else none
  | call _ => if hardware.stack.size = 16 then some (.tooManyCalls 16) else none
  | draw _ _ height => Memory.overrun hardware.index height.val
  | digits _ => Memory.overrun hardware.index 3
  | store last | load last => Memory.overrun hardware.index (last.val + 1)
  | _ => none

/-- An instruction is stopped by its obstacle, before it has changed anything, or carried out. -/
theorem stoppedBy_effect (operation : Operation) (before : Hardware) :
    operation.effect.StoppedBy before (operation.obstacle before) := by
  -- The six instructions that can fail check first, and what follows the check cannot fail.
  cases operation with
  | ret =>
    -- The address is taken off before the counter is set.
    refine .bind (.inside rfl before.stack.stoppedBy_pop) ?_
    intro address state
    exact Attempt.stoppedBy_modify _ _
  | call target =>
    -- The return address is recorded before the counter is set.
    refine .bind_get (.bind (.inside rfl (before.stack.stoppedBy_push _)) ?_)
    intro _ state
    exact Attempt.stoppedBy_modify _ _
  | draw x y height =>
    -- The flag is written after the sprite has been drawn.
    refine .bind_get (.bind (before.stoppedBy_drawAtIndex _ _ _) ?_)
    intro collided state
    exact Attempt.stoppedBy_modify _ _
  | digits x =>
    exact .bind_get (.inside rfl (before.memory.stoppedBy_writeBytes _ _))
  | store last =>
    -- The index moves on after all bytes have been written, of which there are `last + 1`.
    have written := before.memory.stoppedBy_writeBytes before.index (before.registers.block last)
    rw [Registers.length_block] at written
    refine .bind_get (.bind (.inside rfl written) ?_)
    intro _ state
    exact Attempt.stoppedBy_modify _ _
  | load last =>
    -- Registers and index change after all bytes have been read.
    refine .bind_get (.bind (before.memory.stoppedBy_readBytes _ _ before) ?_)
    intro bytes state
    refine .bind (Attempt.stoppedBy_modify _ _) ?_
    intro _ filled
    exact Attempt.stoppedBy_modify _ _
  -- All others are a single change, which cannot fail.
  | _ => exact Attempt.stoppedBy_modify _ before

/-- Without an obstacle an instruction is carried out. -/
theorem exists_of_obstacle_none {operation : Operation} {before : Hardware}
    (free : operation.obstacle before = none) :
    ∃ after, operation.effect.run before = .ok () after := by
  -- Without an obstacle the effect is one that comes to its end.
  have stoppedBy := operation.stoppedBy_effect before
  rw [free] at stoppedBy
  obtain ⟨_, after, carriedOut⟩ := stoppedBy
  exact ⟨after, carriedOut⟩

end Operation

end ChipEight
