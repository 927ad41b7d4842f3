import ChipEight.Proofs.Operation.Success

/-! Where a program continues after an instruction, and which calls are pending then. -/

namespace ChipEight

namespace Hardware

/-- The exact number of the address that follows the next word if it is passed over. -/
theorem toNat_pc_skipWhen {hardware : Hardware} (below : hardware.pc.toNat ≤ 0x2100)
    (condition : Bool) :
    (hardware.skipWhen condition).pc.toNat =
      if condition then hardware.pc.toNat + 2 else hardware.pc.toNat := by
  -- The counter is far below the number of words.
  cases condition with
  | false => rfl
  | true =>
    have two : (2 : UInt16).toNat = 2 := rfl
    simp only [skipWhen, ite_true, UInt16.toNat_add, two]
    omega

/-- Passing over a word leaves the call stack alone. -/
theorem stack_skipWhen (hardware : Hardware) (condition : Bool) :
    (hardware.skipWhen condition).stack = hardware.stack := by
  -- The counter is all that moves.
  cases condition <;> rfl

end Hardware

namespace Operation

/-- Whether an instruction passes over the word that follows it. -/
def skips (operation : Operation) (hardware : Hardware) : Bool :=
  match operation with
  | skipIfByte x byte => hardware.register x == byte
  | skipUnlessByte x byte => hardware.register x != byte
  | skipIfEqual x y => hardware.register x == hardware.register y
  | skipUnlessEqual x y => hardware.register x != hardware.register y
  | skipIfDown x => hardware.keypad.isDown (Nibble.ofByte (hardware.register x))
  | skipUnlessDown x => !hardware.keypad.isDown (Nibble.ofByte (hardware.register x))
  | _ => false

/-- The number of the address at which a program continues after an instruction. -/
def continuation (operation : Operation) (hardware : Hardware) : Nat :=
  match operation with
  | ret => (hardware.stack.toList.getLast?.getD 0).toNat
  | jump target | call target => target.val
  | jumpAhead offset =>
    hardware.pc.toNat + (offset.val + (hardware.register Register.first).toNat)
  | awaitKey _ =>
    if hardware.keypad.first?.isSome then hardware.pc.toNat else hardware.pc.toNat - 2
  | _ => if operation.skips hardware then hardware.pc.toNat + 2 else hardware.pc.toNat

/-- The return addresses that are pending after an instruction, the oldest call first. -/
def pending (operation : Operation) (hardware : Hardware) : List UInt16 :=
  match operation with
  | ret => hardware.stack.toList.dropLast
  | call _ => hardware.stack.toList ++ [hardware.pc]
  | _ => hardware.stack.toList

/-- The number of an address that an instruction can name is that of its word. -/
theorem toNat_ofNat_address (address : Address) : (UInt16.ofNat address.val).toNat = address.val := by
  -- Twelve bits fit in a word.
  rw [UInt16.toNat_ofNat']
  omega

/-- An instruction that passes over the next word or not leads where it should. -/
private theorem control_of_skip {operation : Operation} {before after : Hardware}
    (below : before.pc.toNat ≤ 0x2100)
    (carriedOut : after = before.skipWhen (operation.skips before))
    (exits : operation.continuation before =
      if operation.skips before then before.pc.toNat + 2 else before.pc.toNat)
    (kept : operation.pending before = before.stack.toList) :
    after.pc.toNat = operation.continuation before ∧
      after.stack.toList = operation.pending before := by
  -- The counter follows the condition, and the calls are left alone.
  rw [carriedOut, exits, kept, Hardware.stack_skipWhen]
  exact ⟨Hardware.toNat_pc_skipWhen below _, rfl⟩

/-- An instruction that is carried out leads to its continuation, reckoned in numbers, and leaves
its pending calls behind. -/
theorem control_of_effect {operation : Operation} {before after : Hardware}
    (above : 2 ≤ before.pc.toNat) (below : before.pc.toNat ≤ 0x2100)
    (carriedOut : operation.effect.run before = .ok () after) :
    after.pc.toNat = operation.continuation before ∧
      after.stack.toList = operation.pending before := by
  -- Most instructions touch neither part, and no word on the way wraps round.
  cases operation with
  | ret =>
    -- The address that is taken off the stack is the last one listed.
    obtain ⟨address, stack, listed, rfl⟩ := ok_of_ret carriedOut
    constructor
    · simp [continuation, listed]
    · simp [pending, listed]
  | jump target =>
    rw [Attempt.ok_of_modify carriedOut]
    exact ⟨toNat_ofNat_address target, rfl⟩
  | call target =>
    -- The counter is recorded as it stands behind the call.
    obtain ⟨stack, listed, rfl⟩ := ok_of_call carriedOut
    exact ⟨toNat_ofNat_address target, listed⟩
  -- The condition of the skip is the one that the effect asks for.
  | skipIfByte x byte =>
    exact control_of_skip below (Attempt.ok_of_modify carriedOut) rfl rfl
  | skipUnlessByte x byte =>
    exact control_of_skip below (Attempt.ok_of_modify carriedOut) rfl rfl
  | skipIfEqual x y =>
    exact control_of_skip below (Attempt.ok_of_modify carriedOut) rfl rfl
  | skipUnlessEqual x y =>
    exact control_of_skip below (Attempt.ok_of_modify carriedOut) rfl rfl
  | skipIfDown x =>
    exact control_of_skip below (Attempt.ok_of_modify carriedOut) rfl rfl
  | skipUnlessDown x =>
    exact control_of_skip below (Attempt.ok_of_modify carriedOut) rfl rfl
  | jumpAhead offset =>
    rw [Attempt.ok_of_modify carriedOut]
    -- An address, a byte and the counter add up to less than a word can hold.
    have byte := (before.register Register.first).toNat_lt
    have address := toNat_ofNat_address offset
    refine ⟨?_, rfl⟩
    simp only [continuation, UInt16.toNat_add, UInt8.toNat_toUInt16, address]
    omega
  | awaitKey x =>
    rw [Attempt.ok_of_modify carriedOut]
    cases key : before.keypad.first? with
    -- With a key the counter stays behind the wait.
    | some number => simp [continuation, pending, key, Hardware.setRegister]
    | none =>
      -- The counter has passed the instruction, so it can go back by as much.
      have two : (2 : UInt16) ≤ before.pc := above
      have back := UInt16.toNat_sub_of_le _ _ two
      simpa [continuation, pending, key] using back
  | draw x y height =>
    -- Neither the screen nor the flag is looked at here.
    obtain ⟨screen, collided, -, -, rfl⟩ := ok_of_draw carriedOut
    exact ⟨rfl, rfl⟩
  -- Memory, registers and index have nothing to do with where a program continues.
  | digits x =>
    obtain ⟨-, rfl⟩ := ok_of_digits carriedOut
    exact ⟨rfl, rfl⟩
  | store last =>
    obtain ⟨-, rfl⟩ := ok_of_store carriedOut
    exact ⟨rfl, rfl⟩
  | load last =>
    obtain ⟨-, rfl⟩ := ok_of_load carriedOut
    exact ⟨rfl, rfl⟩
  -- All other instructions leave counter and calls alone.
  | _ =>
    rw [Attempt.ok_of_modify carriedOut]
    exact ⟨rfl, rfl⟩

end Operation

end ChipEight
