import ChipEight.Proofs.Operation.Arithmetic
import ChipEight.Proofs.Operation.Patch

/-! Registers that are stored come back when they are loaded from the same place, memory that is
loaded stays as it is when the registers are stored there, and one transfer begins where another has
ended. -/

namespace ChipEight

namespace Register

/-- The registers through a given one are those up to it. -/
theorem mem_through {last number : Register} : number ∈ last.through ↔ number ≤ last := by
  -- In the list of all registers each is found at the position that is its number.
  simp only [through, Nibble.all, List.mem_take_iff_getElem, List.getElem_finRange,
    List.length_finRange, Fin.le_def]
  constructor
  · rintro ⟨position, within, rfl⟩
    simp only [Fin.val_cast]
    omega
  · intro early
    exact ⟨number.val, by omega, rfl⟩

/-- No register is listed twice. -/
theorem nodup_through (last : Register) : last.through.Nodup :=
  -- The registers through the last one are a part of the list of all.
  (List.nodup_finRange 16).sublist (List.take_sublist _ _)

end Register

namespace Registers

/-- A register that one of several writes is about, and no other one is, holds its byte. -/
theorem read_foldl_write_of_mem (registers : Registers) {writes : List (Register × UInt8)}
    (distinct : (writes.map Prod.fst).Nodup) {number : Register} {byte : UInt8}
    (listed : (number, byte) ∈ writes) :
    (writes.foldl (fun filled pair => filled.write pair.1 pair.2) registers).read number =
      byte := by
  -- The writes behind the one in question are about other registers.
  induction writes generalizing registers with
  -- No write can be about the register.
  | nil => cases listed
  | cons first rest ih =>
    rw [List.map_cons, List.nodup_cons] at distinct
    rw [List.foldl_cons]
    -- Either this write is the one in question, and no later one undoes it, or it is among the
    -- others.
    rcases List.mem_cons.mp listed with rfl | later
    · rw [read_foldl_write_of_notMem _ _ distinct.1, read_write_self]
    · exact ih _ distinct.2 later

/-- A block puts its bytes into the registers in order. -/
theorem read_writeBlock_of_le (registers : Registers) {last number : Register}
    {bytes : List UInt8} (enough : bytes.length = last.val + 1) (early : number ≤ last) :
    some ((registers.writeBlock bytes).read number) = bytes[number.val]? := by
  -- The block reaches to the byte for this register.
  have within : number.val < bytes.length := by
    rw [enough]
    exact Nat.lt_succ_of_le early
  -- The byte is paired with the register whose number is its place in the block.
  have paired : (number, bytes[number.val]) ∈ Nibble.all.zip bytes := by
    have known : number.val < Nibble.all.length := by
      rw [Nibble.all, List.length_finRange]
      exact number.isLt
    refine List.mem_iff_getElem.mpr ⟨number.val, ?_, ?_⟩
    · rw [List.length_zip]
      omega
    · simp [Nibble.all]
  -- Each register is paired once, so that no other pair writes over it.
  have distinct : ((Nibble.all.zip bytes).map Prod.fst).Nodup := by
    rw [map_fst_zip_all enough]
    exact last.nodup_through
  rw [List.getElem?_eq_getElem within, writeBlock, read_foldl_write_of_mem _ distinct paired]

end Registers

/-- The index moves behind a range of memory without wrapping round. -/
theorem toNat_index_add {index : UInt16} {count : Nat} (inside : index.toNat + count ≤ 4096) :
    (index + UInt16.ofNat count).toNat = index.toNat + count := by
  -- A range in memory is shorter than the words are many, so the count is a word.
  have small : count < 65536 := by omega
  rw [UInt16.toNat_add, UInt16.toNat_ofNat_of_lt' small]
  omega

/-- What an instruction leaves that has moved the registers through a given one to the memory at the
index or from there. -/
structure Hardware.Transfer (before : Hardware) (last : Register) (after : Hardware) : Prop where
  /-- The range at the index lies in memory. -/
  inside : before.index.toNat + last.val + 1 ≤ 4096
  /-- It holds the bytes of the registers in order. -/
  alike : ∀ number ≤ last,
    after.memory.byteAt (before.index.toNat + number.val) = after.register number
  /-- The bytes before the range and behind it are as they were. -/
  memory : ∀ address,
    address < before.index.toNat ∨ before.index.toNat + last.val + 1 ≤ address →
      after.memory.byteAt address = before.memory.byteAt address
  /-- So are the other registers. -/
  registers : ∀ number, last < number → after.register number = before.register number
  /-- The index has moved behind the range. -/
  index : after.index.toNat = before.index.toNat + last.val + 1
  /-- Nothing else has changed. -/
  kept : after = { before with
    memory := after.memory, registers := after.registers, index := after.index }

namespace Operation

variable {last : Register} {before after : Hardware}

/-- A store moves the registers to memory and leaves them as they are. -/
theorem transfer_of_store (carriedOut : (store last).effect.run before = .ok () after) :
    before.Transfer last after ∧ ∀ number, after.register number = before.register number := by
  -- That the store was carried out tells where the range lies and what is in the machine now.
  obtain ⟨inside, rfl⟩ := ok_of_store carriedOut
  refine ⟨⟨inside, ?_, ?_, fun _ _ => rfl, toNat_index_add inside, rfl⟩, fun _ => rfl⟩
  · -- At the place of a register its own byte of the block is found.
    intro number early
    have reached : before.index.toNat ≤ before.index.toNat + number.val ∧
        before.index.toNat + number.val < 4096 := by
      rw [Fin.le_def] at early
      omega
    simp only [Memory.byteAt_overlay, if_pos reached, Nat.add_sub_cancel_left,
      before.registers.getElem?_block early, Option.getD_some]
    rfl
  · -- The block is as long as the range, so nothing outside of it is written.
    intro address outside
    refine before.memory.byteAt_overlay_of_outside ?_
    rwa [Registers.length_block]

/-- A load moves memory to the registers and leaves it as it is. -/
theorem transfer_of_load (carriedOut : (load last).effect.run before = .ok () after) :
    before.Transfer last after ∧ after.memory = before.memory := by
  -- What was loaded is the slice of memory at the index.
  obtain ⟨inside, rfl⟩ := ok_of_load carriedOut
  have enough := before.memory.length_slice before.index.toNat (last.val + 1)
  refine ⟨⟨inside, ?_, fun _ _ => rfl, ?_, toNat_index_add inside, rfl⟩, rfl⟩
  · -- The byte at the place of a register is the one that the block has for it.
    intro number early
    have within : number.val < last.val + 1 := Nat.lt_succ_of_le early
    have filled := before.registers.read_writeBlock_of_le enough early
    simp only [Memory.slice, List.getElem?_map, List.getElem?_range within, Option.map_some,
      Option.some.injEq] at filled
    exact filled.symm
  · -- Registers above the last one have no byte in the block.
    intro number later
    refine Registers.read_writeBlock_of_notMem _ enough ?_
    rw [Register.mem_through]
    exact Nat.not_le.mpr later

/-- Registers that were stored come back when they are loaded from the same place, whatever has
become of them in between, and even if others are not asked back. -/
theorem registers_of_load_after_store {wide narrow : Register} (fewer : narrow ≤ wide)
    {stored loaded : Hardware} {registers : Registers}
    (first : (store wide).effect.run before = .ok () stored)
    (second : (load narrow).effect.run { stored with registers, index := before.index } =
      .ok () loaded) :
    (∀ number ≤ narrow, loaded.register number = before.register number) ∧
      (∀ number > narrow, loaded.register number = registers.read number) ∧
      loaded.index.toNat = before.index.toNat + narrow.val + 1 ∧ loaded.memory = stored.memory := by
  -- The store leaves memory like the registers, and the load makes the registers like memory.
  obtain ⟨there, kept⟩ := transfer_of_store first
  obtain ⟨back, memory⟩ := transfer_of_load second
  refine ⟨?_, back.registers, back.index, memory⟩
  intro number early
  calc loaded.register number
      = loaded.memory.byteAt (before.index.toNat + number.val) := (back.alike number early).symm
    _ = stored.memory.byteAt (before.index.toNat + number.val) := by rw [memory]
    _ = stored.register number := there.alike number (Fin.le_trans early fewer)
    _ = before.register number := kept number

/-- Memory that was loaded is as before once the registers have been stored in the same place. -/
theorem memory_of_store_after_load {stored loaded : Hardware}
    (first : (load last).effect.run before = .ok () loaded)
    (second : (store last).effect.run { loaded with index := before.index } = .ok () stored) :
    stored.memory = before.memory := by
  -- Outside of the range neither transfer writes, and inside both agree with the registers.
  obtain ⟨there, memory⟩ := transfer_of_load first
  obtain ⟨back, kept⟩ := transfer_of_store second
  refine Memory.ext fun address _ => ?_
  by_cases outside : address < before.index.toNat ∨ before.index.toNat + last.val + 1 ≤ address
  · exact (back.memory address outside).trans (congrArg (Memory.byteAt · address) memory)
  · -- The byte of a register has come from the place to which it goes back.
    rw [not_or] at outside
    obtain ⟨number, rfl⟩ : ∃ number : Register, before.index.toNat + number.val = address :=
      ⟨⟨address - before.index.toNat, by omega⟩, Nat.add_sub_of_le (Nat.not_lt.mp outside.1)⟩
    have early : number ≤ last := by
      rw [Fin.le_def]
      omega
    calc stored.memory.byteAt (before.index.toNat + number.val)
        = stored.register number := back.alike number early
      _ = loaded.register number := kept number
      _ = loaded.memory.byteAt (before.index.toNat + number.val) := (there.alike number early).symm
      _ = before.memory.byteAt (before.index.toNat + number.val) := by rw [memory]

/-- Of two stores the second begins where the first has ended, so that both blocks are in memory. -/
theorem byteAt_of_store_after_store {first second : Register} {middle : Hardware}
    (one : (store first).effect.run before = .ok () middle)
    (other : (store second).effect.run middle = .ok () after) :
    (∀ number ≤ first,
        after.memory.byteAt (before.index.toNat + number.val) = before.register number) ∧
      (∀ number ≤ second,
        after.memory.byteAt (before.index.toNat + first.val + 1 + number.val) =
          before.register number) ∧
      ∀ address, address < before.index.toNat ∨
        before.index.toNat + first.val + 1 + second.val + 1 ≤ address →
          after.memory.byteAt address = before.memory.byteAt address := by
  -- The second block starts at the index that the first one leaves.
  obtain ⟨near, kept⟩ := transfer_of_store one
  obtain ⟨far, keptAgain⟩ := transfer_of_store other
  have meeting := near.index
  have inside := far.inside
  refine ⟨?_, ?_, ?_⟩
  · -- The second store writes behind the first block only.
    intro number early
    have within : number.val ≤ first.val := early
    rw [far.memory _ (.inl (by omega)), near.alike number early, kept]
  · -- At the second block the registers are still those from the beginning.
    intro number early
    rw [← meeting, far.alike number early, keptAgain, kept]
  · -- An address apart from both blocks is apart from each.
    intro address outside
    rw [far.memory address (by omega), near.memory address (by omega)]

/-- A store or a load of a block of registers. -/
inductive Transfers (last : Register) : Operation → Prop
  /-- The registers go to memory. -/
  | store : Transfers last (store last)
  /-- The registers come from memory. -/
  | load : Transfers last (load last)

/-- Whichever way the registers go, they agree with the range at the index in the end. -/
theorem Transfers.transfer {operation : Operation} (transfers : operation.Transfers last)
    (carriedOut : operation.effect.run before = .ok () after) : before.Transfer last after := by
  -- Both directions leave the same agreement.
  cases transfers with
  | store => exact (transfer_of_store carriedOut).1
  | load => exact (transfer_of_load carriedOut).1

/-- Whichever way the registers go, a range in memory is all that it takes. -/
theorem Transfers.exists_after {operation : Operation} (transfers : operation.Transfers last)
    (before : Hardware) (inside : before.index.toNat + last.val + 1 ≤ 4096) :
    ∃ after, (obey operation.word).run before = .ok () after := by
  -- The only obstacle to a transfer is a range that does not lie in memory.
  have free : operation.obstacle before = none := by
    cases transfers <;> exact if_neg (Nat.not_lt.mpr inside)
  obtain ⟨after, carriedOut⟩ := exists_of_obstacle_none free
  exact ⟨after, (run_obey_word operation before).trans carriedOut⟩

/-- Block transfers undo each other. Registers that were stored come back when as many of them or
fewer are loaded from the same place, whatever has become of them in between. Memory that was loaded
is as before once the registers have been stored in the same place. Of two transfers in a row the
second begins where the first has ended, so that two stores leave both blocks in memory. -/
theorem block_transfers_undo_each_other (before : Hardware) :
    (∀ wide narrow : Register, narrow ≤ wide → before.index.toNat + wide.val + 1 ≤ 4096 →
      ∃ stored, (obey (store wide).word).run before = .ok () stored ∧
        ∀ registers : Registers, ∃ loaded,
          (obey (load narrow).word).run { stored with registers, index := before.index } =
            .ok () loaded ∧
          (∀ number ≤ narrow, loaded.register number = before.register number) ∧
          (∀ number > narrow, loaded.register number = registers.read number) ∧
          loaded.index.toNat = before.index.toNat + narrow.val + 1 ∧
          loaded.memory = stored.memory) ∧
    (∀ last : Register, before.index.toNat + last.val + 1 ≤ 4096 →
      ∃ loaded stored, (obey (load last).word).run before = .ok () loaded ∧
        (obey (store last).word).run { loaded with index := before.index } = .ok () stored ∧
        stored.memory = before.memory) ∧
    (∀ (first second : Register) (one other : Operation) (middle after : Hardware),
      one.Transfers first → other.Transfers second →
      (obey one.word).run before = .ok () middle → (obey other.word).run middle = .ok () after →
        before.Transfer first middle ∧ middle.Transfer second after) ∧
    ∀ (first second : Register) (middle after : Hardware),
      (obey (store first).word).run before = .ok () middle →
      (obey (store second).word).run middle = .ok () after →
        (∀ number ≤ first,
          after.memory.byteAt (before.index.toNat + number.val) = before.register number) ∧
        (∀ number ≤ second,
          after.memory.byteAt (before.index.toNat + first.val + 1 + number.val) =
            before.register number) ∧
        ∀ address, address < before.index.toNat ∨
          before.index.toNat + first.val + 1 + second.val + 1 ≤ address →
            after.memory.byteAt address = before.memory.byteAt address := by
  refine ⟨?_, ?_, ?_, ?_⟩
  · -- The store is carried out because its range lies in memory.
    intro wide narrow fewer inside
    obtain ⟨stored, obeyed⟩ := Transfers.store.exists_after before inside
    refine ⟨stored, obeyed, fun registers => ?_⟩
    -- A load of fewer registers stays in the range of the store.
    have shorter : before.index.toNat + narrow.val + 1 ≤ 4096 := by
      rw [Fin.le_def] at fewer
      omega
    obtain ⟨loaded, obeyedToo⟩ :=
      Transfers.load.exists_after { stored with registers, index := before.index } shorter
    refine ⟨loaded, obeyedToo, ?_⟩
    -- What the words of the two instructions do is what the instructions do.
    rw [run_obey_word] at obeyed obeyedToo
    exact registers_of_load_after_store fewer obeyed obeyedToo
  · -- Both transfers have the same range, which lies in memory.
    intro last inside
    obtain ⟨loaded, obeyed⟩ := Transfers.load.exists_after before inside
    obtain ⟨stored, obeyedToo⟩ :=
      Transfers.store.exists_after { loaded with index := before.index } inside
    refine ⟨loaded, stored, obeyed, obeyedToo, ?_⟩
    rw [run_obey_word] at obeyed obeyedToo
    exact memory_of_store_after_load obeyed obeyedToo
  · intro first second one other middle after near far obeyed obeyedToo
    rw [run_obey_word] at obeyed obeyedToo
    exact ⟨near.transfer obeyed, far.transfer obeyedToo⟩
  · intro first second middle after obeyed obeyedToo
    rw [run_obey_word] at obeyed obeyedToo
    exact byteAt_of_store_after_store obeyed obeyedToo

/-- The flag register is stored with all others in the last sixteen bytes of memory, and the first
two registers are loaded back from there after all have been cleared. -/
theorem block_transfers_undo_each_other_at_end :
    ∃ before stored loaded : Hardware, before.index = 0xFF0 ∧ before.register 1 = 9 ∧
      (obey 0xFF55).run before = .ok () stored ∧
      (obey 0xF165).run { stored with registers := .zero, index := 0xFF0 } = .ok () loaded ∧
      loaded.register 1 = 9 ∧ loaded.register 2 = 0 ∧ loaded.index.toNat = 0xFF2 := by
  -- The last sixteen bytes are just enough for all registers.
  let before : Hardware :=
    { (Hardware.powerOn (Random.ofSeed 0)).setRegister 1 9 with index := 0xFF0 }
  obtain ⟨stored, obeyed, back⟩ := (block_transfers_undo_each_other before).1 15 1 (by decide)
    (by decide)
  obtain ⟨loaded, obeyedToo, restored, others, index, -⟩ := back .zero
  refine ⟨before, stored, loaded, rfl, ?_, obeyed, obeyedToo, ?_, ?_, index⟩
  · exact Registers.read_write_self ..
  · rw [restored 1 (by decide)]
    exact Registers.read_write_self ..
  · rw [others 2 (by decide), Registers.read_zero]

end Operation

end ChipEight
