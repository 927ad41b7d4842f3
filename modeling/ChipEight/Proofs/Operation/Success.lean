import ChipEight.Operation.Effect
import ChipEight.Proofs.Attempt

/-! What the six instructions that a fault may stop leave behind once they have been carried out. -/

namespace ChipEight

/-- A return address that was taken off is the last of those listed. -/
theorem ReturnStack.ok_of_pop {before after : ReturnStack} {address : UInt16}
    (succeeded : pop.run before = .ok address after) :
    before.toList = after.toList ++ [address] := by
  -- Without a pending call there would be a fault.
  by_cases idle : before.size = 0
  · rw [run_pop_of_zero idle] at succeeded
    cases succeeded
  · obtain ⟨found, next, popped, listed⟩ := run_pop_of_pos (Nat.pos_of_ne_zero idle)
    rw [popped] at succeeded
    cases succeeded
    exact listed

/-- A return address that was recorded comes after all those listed before. -/
theorem ReturnStack.ok_of_push {before after : ReturnStack} {address : UInt16}
    (succeeded : (push address).run before = .ok () after) :
    after.toList = before.toList ++ [address] := by
  -- Without a free place there would be a fault.
  by_cases full : before.size = 16
  · rw [run_push_of_full full] at succeeded
    cases succeeded
  · have room : before.size < 16 := by have := before.size_le; omega
    obtain ⟨next, pushed, listed⟩ := run_push_of_lt room address
    rw [pushed] at succeeded
    cases succeeded
    exact listed

/-- Bytes that were read are those of a range in memory. -/
theorem Memory.ok_of_readBytes {memory : Memory} {address : UInt16} {length : Nat}
    {bytes : List UInt8} (read : memory.readBytes address length = .ok bytes) :
    address.toNat + length ≤ 4096 ∧ bytes = memory.slice address.toNat length := by
  -- A range that leaves memory would have been refused.
  by_cases inside : address.toNat + length ≤ 4096
  · rw [memory.readBytes_of_le inside] at read
    cases read
    exact ⟨inside, rfl⟩
  · rw [memory.readBytes_of_gt (Nat.not_le.mp inside)] at read
    cases read

/-- Bytes that were written have been laid over a range in memory. -/
theorem Memory.ok_of_writeBytes {address : UInt16} {bytes : List UInt8} {before after : Memory}
    (written : (writeBytes address bytes).run before = .ok () after) :
    address.toNat + bytes.length ≤ 4096 ∧ after = before.overlay address.toNat bytes := by
  -- A range that leaves memory would have been refused.
  by_cases inside : address.toNat + bytes.length ≤ 4096
  · rw [before.run_writeBytes_of_le inside] at written
    cases written
    exact ⟨inside, rfl⟩
  · rw [before.run_writeBytes_of_gt (Nat.not_le.mp inside)] at written
    cases written

/-- Drawing that has succeeded has read the sprite and changed nothing but the screen. -/
theorem Hardware.ok_of_drawAtIndex {x y : UInt8} {height : Nat} {before after : Hardware}
    {collided : Bool} (succeeded : (drawAtIndex x y height).run before = .ok collided after) :
    ∃ bytes, before.memory.readBytes before.index height = .ok bytes ∧
      collided = (before.screen.draw x.toNat y.toNat bytes).2 ∧
      after = { before with screen := (before.screen.draw x.toNat y.toNat bytes).1 } := by
  -- Drawing itself takes any bytes, so only the reading could have failed.
  obtain ⟨bytes, _, reading, drawn⟩ := Attempt.ok_of_bind (Attempt.ok_of_bind_get succeeded)
  obtain ⟨found, rfl⟩ := Attempt.ok_of_ofExcept reading
  cases drawn
  exact ⟨bytes, found, rfl, rfl⟩

namespace Operation

variable {before after : Hardware}

/-- A return continues at the address that it takes off the call stack. -/
theorem popped_of_ret (carriedOut : ret.effect.run before = .ok () after) :
    ∃ (address : UInt16) (stack : ReturnStack),
      ReturnStack.pop.run before.stack = .ok address stack ∧
        after = { before with stack, pc := address } := by
  -- The address is taken off the stack before the counter is set.
  obtain ⟨address, _, inPlace, continued⟩ := Attempt.ok_of_bind carriedOut
  obtain ⟨stack, popped, rfl⟩ := Attempt.ok_of_inside inPlace
  exact ⟨address, stack, popped, Attempt.ok_of_modify continued⟩

/-- A return continues at the latest return address, which it takes off. -/
theorem ok_of_ret (carriedOut : ret.effect.run before = .ok () after) :
    ∃ (address : UInt16) (stack : ReturnStack),
      before.stack.toList = stack.toList ++ [address] ∧
        after = { before with stack, pc := address } := by
  obtain ⟨address, stack, popped, left⟩ := popped_of_ret carriedOut
  exact ⟨address, stack, ReturnStack.ok_of_pop popped, left⟩

/-- A call puts the counter as it stands behind the call on the call stack and continues at its
target. -/
theorem pushed_of_call {target : Address}
    (carriedOut : (call target).effect.run before = .ok () after) :
    ∃ stack : ReturnStack, (ReturnStack.push before.pc).run before.stack = .ok () stack ∧
      after = { before with stack, pc := UInt16.ofNat target.val } := by
  -- The counter is recorded before it is set.
  obtain ⟨_, _, inPlace, continued⟩ := Attempt.ok_of_bind (Attempt.ok_of_bind_get carriedOut)
  obtain ⟨stack, pushed, rfl⟩ := Attempt.ok_of_inside inPlace
  exact ⟨stack, pushed, Attempt.ok_of_modify continued⟩

/-- A call continues at its target and records the counter as it stands behind the call. -/
theorem ok_of_call {target : Address} (carriedOut : (call target).effect.run before = .ok () after) :
    ∃ stack : ReturnStack, stack.toList = before.stack.toList ++ [before.pc] ∧
      after = { before with stack, pc := UInt16.ofNat target.val } := by
  obtain ⟨stack, pushed, left⟩ := pushed_of_call carriedOut
  exact ⟨stack, ReturnStack.ok_of_push pushed, left⟩

/-- The sprite at the index has been drawn at the coordinates that the registers held before the
flag was written. -/
theorem ok_of_draw {x y : Register} {height : Nibble}
    (carriedOut : (draw x y height).effect.run before = .ok () after) :
    ∃ screen collided, before.index.toNat + height.val ≤ 4096 ∧
      before.screen.draw (before.register x).toNat (before.register y).toNat
        (before.memory.slice before.index.toNat height.val) = (screen, collided) ∧
      after = { before with screen, registers := before.registers.writeFlag collided } := by
  -- The sprite has been read before the screen changes, and the flag is written after that.
  obtain ⟨collided, _, drawn, flagged⟩ := Attempt.ok_of_bind (Attempt.ok_of_bind_get carriedOut)
  obtain ⟨sprite, read, rfl, rfl⟩ := Hardware.ok_of_drawAtIndex drawn
  obtain ⟨inside, rfl⟩ := Memory.ok_of_readBytes read
  exact ⟨_, _, inside, rfl, Attempt.ok_of_modify flagged⟩

/-- Three decimal digits have been laid over memory at the index. -/
theorem ok_of_digits {x : Register} (carriedOut : (digits x).effect.run before = .ok () after) :
    before.index.toNat + 3 ≤ 4096 ∧
      after = { before with
        memory := before.memory.overlay before.index.toNat
          (decimalDigits (before.register x)) } := by
  -- What is written to memory is put in its place in the hardware, and nothing else happens.
  have inPlace := Attempt.ok_of_bind_get carriedOut
  obtain ⟨memory, written, rfl⟩ := Attempt.ok_of_inside inPlace
  obtain ⟨inside, rfl⟩ := Memory.ok_of_writeBytes written
  exact ⟨inside, rfl⟩

/-- A block of registers has been laid over memory at the index, which has moved behind it. -/
theorem ok_of_store {last : Register} (carriedOut : (store last).effect.run before = .ok () after) :
    before.index.toNat + (last.val + 1) ≤ 4096 ∧
      after = { before with
        memory := before.memory.overlay before.index.toNat (before.registers.block last)
        index := before.index + UInt16.ofNat (last.val + 1) } := by
  -- The index moves on after all bytes have been written, of which there are `last + 1`.
  obtain ⟨_, _, inPlace, moved⟩ := Attempt.ok_of_bind (Attempt.ok_of_bind_get carriedOut)
  obtain ⟨memory, written, rfl⟩ := Attempt.ok_of_inside inPlace
  obtain ⟨inside, rfl⟩ := Memory.ok_of_writeBytes written
  rw [Registers.length_block] at inside
  exact ⟨inside, Attempt.ok_of_modify moved⟩

/-- A block of registers holds the bytes at the index, which has moved behind them. -/
theorem ok_of_load {last : Register} (carriedOut : (load last).effect.run before = .ok () after) :
    before.index.toNat + (last.val + 1) ≤ 4096 ∧
      after = { before with
        registers := before.registers.writeBlock
          (before.memory.slice before.index.toNat (last.val + 1))
        index := before.index + UInt16.ofNat (last.val + 1) } := by
  -- Registers and index change after all bytes have been read.
  obtain ⟨bytes, _, reading, kept⟩ := Attempt.ok_of_bind (Attempt.ok_of_bind_get carriedOut)
  obtain ⟨found, rfl⟩ := Attempt.ok_of_ofExcept reading
  obtain ⟨_, _, copied, moved⟩ := Attempt.ok_of_bind kept
  obtain ⟨inside, rfl⟩ := Memory.ok_of_readBytes found
  rw [Attempt.ok_of_modify copied] at moved
  exact ⟨inside, Attempt.ok_of_modify moved⟩

end Operation

end ChipEight
