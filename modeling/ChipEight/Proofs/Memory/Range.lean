import ChipEight.Memory.Span

/-! Access to a range of memory has the outcome of access to its bytes one after the other, unless
the end of the range is too great for a machine word. -/

namespace ChipEight.Memory

/-- The bytes from an address on, read one after the other up to the first fault. -/
def readEach (memory : Memory) (address : UInt16) : (count : Nat) → Except Fault (List UInt8)
  | 0 => .ok []
  | count + 1 => do
    let byte ← memory.read address
    let rest ← memory.readEach (address + 1) count
    return byte :: rest

/-- Replaces the bytes from an address on, one after the other up to the first fault. -/
def writeEach (address : UInt16) : (bytes : List UInt8) → Attempt Memory Unit
  | [] => pure ()
  | byte :: rest => do
    write address byte
    writeEach (address + 1) rest

/-- An address is the first of a range to lie outside of memory. -/
structure FirstOutside (start stop address : Nat) : Prop where
  /-- It is not before the range. -/
  notBefore : start ≤ address
  /-- It is not behind the range. -/
  notBehind : address < stop
  /-- It lies outside of memory. -/
  outside : 4096 ≤ address
  /-- No address of the range before it does. -/
  first : ∀ earlier, start ≤ earlier → earlier < address → earlier < 4096

/-- Addresses of memory can be counted up without wrapping round. -/
theorem toNat_add_one {address : UInt16} (within : address.toNat < 4096) :
    (address + 1).toNat = address.toNat + 1 := by
  -- The greatest machine word is far behind the end of memory.
  rw [UInt16.toNat_add, UInt16.toNat_one]
  omega

/-- A slice is its first byte and the slice behind it. -/
theorem slice_succ (memory : Memory) (start length : Nat) :
    memory.slice start (length + 1) = memory.byteAt start :: memory.slice (start + 1) length := by
  -- The offsets behind the first are those of the shorter slice, moved on by one.
  simp only [slice, List.range_succ_eq_map, List.map_cons, List.map_map, Nat.add_zero]
  congr 1
  refine List.map_congr_left fun offset _ => ?_
  show memory.byteAt (start + (offset + 1)) = memory.byteAt (start + 1 + offset)
  rw [Nat.add_right_comm, Nat.add_assoc]

/-- The slice of a range laid over memory is what was laid over it. -/
theorem slice_overlay (memory : Memory) {start : Nat} {bytes : List UInt8}
    (inside : start + bytes.length ≤ 4096) :
    (memory.overlay start bytes).slice start bytes.length = bytes := by
  refine List.ext_getElem (length_slice ..) fun offset _ within => ?_
  -- Each offset is that of an address in memory, where the byte laid over it is seen.
  have reached : start ≤ start + offset ∧ start + offset < 4096 := by omega
  simp only [slice, List.getElem_map, List.getElem_range]
  rw [byteAt_overlay, if_pos reached, Nat.add_sub_cancel_left, List.getElem?_eq_getElem within,
    Option.getD_some]

/-- A slice apart from a range does not see what is laid over the range. -/
theorem slice_overlay_of_apart (memory : Memory) {start other length : Nat} {bytes : List UInt8}
    (apart : other + length ≤ start ∨ start + bytes.length ≤ other) :
    (memory.overlay start bytes).slice other length = memory.slice other length := by
  -- No address of the slice is in the range.
  refine List.map_congr_left fun offset listed => ?_
  have few : offset < length := List.mem_range.mp listed
  exact byteAt_overlay_of_outside memory (by omega)

/-- Bytes laid behind the end of memory are all dropped. -/
theorem overlay_of_le (memory : Memory) {start : Nat} (behind : 4096 ≤ start)
    (bytes : List UInt8) : memory.overlay start bytes = memory :=
  Memory.ext fun address within => byteAt_overlay_of_outside memory (.inl (by omega))

/-- Reading the bytes of a range one after the other is reading the range, unless the range is empty
and starts outside of memory. -/
theorem readEach_eq_readBytes (memory : Memory) {address : UInt16} {count : Nat}
    (reached : 0 < count ∨ address.toNat ≤ 4096) :
    memory.readEach address count = memory.readBytes address count := by
  -- The address moves on with each byte, and past the first one it is at most the end of memory.
  induction count generalizing address with
  | zero =>
    have inside : address.toNat + 0 ≤ 4096 := by omega
    rw [readBytes_of_le memory inside]
    rfl
  | succ count ih =>
    rw [readEach]
    by_cases within : address.toNat < 4096
    · -- The first byte is had, and the rest of the range starts no farther than at the end.
      have moved := toNat_add_one within
      have later : memory.readEach (address + 1) count = memory.readBytes (address + 1) count :=
        ih (.inr (by omega))
      simp only [read, if_pos within, later, Bind.bind, Except.bind, Pure.pure, Except.pure]
      by_cases inside : address.toNat + (count + 1) ≤ 4096
      · rw [readBytes_of_le memory inside, readBytes_of_le memory (by omega), moved, slice_succ]
      · -- Both ranges leave memory at its end.
        have same : max (address.toNat + 1) 4096 = max address.toNat 4096 := by omega
        rw [readBytes_of_gt memory (by omega), readBytes_of_gt memory (by omega), moved, same]
    · -- There is no first byte, and the fault names its address.
      have behind : max address.toNat 4096 = address.toNat := by omega
      rw [readBytes_of_gt memory (by omega), behind, read, if_neg within]
      rfl

/-- Writing bytes one after the other lays them over memory as far as they reach, and ends with a
fault at the first address outside. -/
theorem run_writeEach (memory : Memory) {address : UInt16} {bytes : List UInt8}
    (reached : bytes ≠ [] ∨ address.toNat ≤ 4096) :
    (writeEach address bytes).run memory =
      if address.toNat + bytes.length ≤ 4096 then
        .ok () (memory.overlay address.toNat bytes)
      else
        .error (.outsideMemory (max address.toNat 4096))
          (memory.overlay address.toNat bytes) := by
  -- What remains to be written starts where the byte before it was put.
  induction bytes generalizing address memory with
  | nil =>
    have inside : address.toNat + 0 ≤ 4096 := by simpa using reached
    rw [List.length_nil, if_pos inside]
    rfl
  | cons byte rest ih =>
    rw [writeEach, EStateM.run_bind, List.length_cons]
    by_cases within : address.toNat < 4096
    · -- The first byte is written, and the others go on from the next address.
      have moved := toNat_add_one within
      have written : (write address byte).run memory = .ok () (memory.put address.toNat byte) := by
        rw [write, if_pos within]
        rfl
      have next : rest ≠ [] ∨ (address + 1).toNat ≤ 4096 := .inr (by omega)
      have later := ih (memory.put address.toNat byte) next
      have bounds : (address.toNat + 1 + rest.length ≤ 4096) =
          (address.toNat + (rest.length + 1) ≤ 4096) := by
        rw [Nat.add_right_comm, Nat.add_assoc]
      have same : max (address.toNat + 1) 4096 = max address.toNat 4096 := by omega
      rw [moved, same] at later
      simp only [written, later, bounds, overlay]
    · -- The first byte is refused, and nothing has been written.
      have refused : (write address byte).run memory =
          .error (.outsideMemory address.toNat) memory := by
        rw [write, if_neg within]
        rfl
      have outside : ¬ address.toNat + (rest.length + 1) ≤ 4096 := by omega
      have behind : max address.toNat 4096 = address.toNat := by omega
      rw [refused, if_neg outside, behind, overlay_of_le memory (by omega)]

/-- The first address outside of memory is the start of the range or the end of memory, whichever
comes later. -/
theorem firstOutside_max {start stop : Nat} (nonempty : start < stop) (leaves : 4096 < stop) :
    FirstOutside start stop (max start 4096) where
  notBefore := by omega
  notBehind := by omega
  outside := by omega
  first := by omega

/-- A range in memory is read in full. -/
theorem readSpan_of_inside (memory : Memory) {address : UInt16} {length : UInt64}
    (inside : address.toNat + length.toNat ≤ 4096) :
    memory.readSpan address length = .ok (memory.slice address.toNat length.toNat) := by
  -- An end in memory is far from the greatest machine word.
  have small : address.toNat + length.toNat < UInt64.size := by
    rw [UInt64.size]
    omega
  rw [readSpan_of_lt memory small, readBytes_of_le memory inside]
  rfl

/-- A range that leaves memory is refused with the first address outside if it has an end. -/
theorem readSpan_of_outside (memory : Memory) {address : UInt16} {length : UInt64}
    (outside : 4096 < address.toNat + length.toNat)
    (small : address.toNat + length.toNat < UInt64.size) :
    memory.readSpan address length =
      .error (.outside (.outsideMemory (max address.toNat 4096))) := by
  -- The sum is a machine word, so the bounds are checked as those of any access.
  rw [readSpan_of_lt memory small, readBytes_of_gt memory outside]
  rfl

/-- Laying bytes over memory changes no reading of a range apart from them. -/
theorem readSpan_overlay_of_apart (memory : Memory) {start : Nat} {bytes : List UInt8}
    {other : UInt16} {length : UInt64}
    (apart : other.toNat + length.toNat ≤ start ∨ start + bytes.length ≤ other.toNat) :
    (memory.overlay start bytes).readSpan other length = memory.readSpan other length := by
  -- Whether a range can be read does not depend on what memory holds.
  by_cases great : UInt64.size ≤ other.toNat + length.toNat
  · rw [readSpan_of_ge _ great, readSpan_of_ge _ great]
  have small : other.toNat + length.toNat < UInt64.size := Nat.not_le.mp great
  by_cases inside : other.toNat + length.toNat ≤ 4096
  · rw [readSpan_of_inside _ inside, readSpan_of_inside _ inside, slice_overlay_of_apart _ apart]
  · have outside : 4096 < other.toNat + length.toNat := Nat.not_le.mp inside
    rw [readSpan_of_outside _ outside small, readSpan_of_outside _ outside small]

/-- What reading a range has to do with reading its bytes one after the other. -/
structure ReadsAsEach (memory : Memory) (address : UInt16) (length : UInt64) : Prop where
  /-- A range in memory is read, and its bytes are those read one after the other. -/
  inside : address.toNat + length.toNat ≤ 4096 →
    ∃ bytes, memory.readSpan address length = .ok bytes ∧
      memory.readEach address length.toNat = .ok bytes
  /-- Any other range that has a machine word for its end is refused with the first address
  outside. -/
  outside : 4096 < address.toNat + length.toNat → address.toNat + length.toNat < UInt64.size →
    memory.readSpan address length =
      .error (.outside (.outsideMemory (max address.toNat 4096)))
  /-- Where its end is too great for a machine word, the sum ends the reading. -/
  overflow : UInt64.size ≤ address.toNat + length.toNat →
    memory.readSpan address length = .error .overflow
  /-- Reading one byte after the other stops at the first address outside. -/
  stopped : 0 < length.toNat → 4096 < address.toNat + length.toNat →
    memory.readEach address length.toNat =
        .error (.outsideMemory (max address.toNat 4096)) ∧
      FirstOutside address.toNat (address.toNat + length.toNat) (max address.toNat 4096)

/-- What memory shows after bytes have been written to a range of it. -/
structure Shows (before : Memory) (address : UInt16) (bytes : List UInt8) (after : Memory) :
    Prop where
  /-- The range reads as the bytes that were written. -/
  back : ∀ length : UInt64, length.toNat = bytes.length →
    after.readSpan address length = .ok bytes
  /-- Every other address reads as before. -/
  others : ∀ other : UInt16,
    other.toNat < address.toNat ∨ address.toNat + bytes.length ≤ other.toNat →
      after.read other = before.read other
  /-- Every range apart from it reads as before, or is refused as before. -/
  apart : ∀ (other : UInt16) (length : UInt64),
    other.toNat + length.toNat ≤ address.toNat ∨ address.toNat + bytes.length ≤ other.toNat →
      after.readSpan other length = before.readSpan other length

/-- What writing a range has to do with writing its bytes one after the other. -/
structure WritesAsEach (memory : Memory) (address : UInt16) (bytes : List UInt8) : Prop where
  /-- A range in memory is written, with the outcome of writing one byte after the other. -/
  inside : address.toNat + bytes.length ≤ 4096 →
    ∃ after, (writeBytes address bytes).run memory = .ok () after ∧
      (writeEach address bytes).run memory = .ok () after ∧ Shows memory address bytes after
  /-- Any other range is refused with the first address outside, and nothing is written. -/
  outside : 4096 < address.toNat + bytes.length →
    (writeBytes address bytes).run memory =
      .error (.outsideMemory (max address.toNat 4096)) memory
  /-- Writing one byte after the other stops at the same address. -/
  stopped : bytes ≠ [] → 4096 < address.toNat + bytes.length →
    ∃ left, (writeEach address bytes).run memory =
      .error (.outsideMemory (max address.toNat 4096)) left

/-- Reading a range of any length has to do with reading its bytes as it should. -/
theorem readsAsEach (memory : Memory) (address : UInt16) (length : UInt64) :
    ReadsAsEach memory address length where
  inside within := by
    -- A range that ends in memory starts in it.
    have reached : 0 < length.toNat ∨ address.toNat ≤ 4096 := .inr (by omega)
    have each := memory.readEach_eq_readBytes reached
    rw [readBytes_of_le memory within] at each
    exact ⟨_, readSpan_of_inside memory within, each⟩
  outside leaves small := readSpan_of_outside memory leaves small
  overflow great := readSpan_of_ge memory great
  stopped nonempty leaves := by
    -- Of an empty range no byte would be read, whatever its start.
    have reached : 0 < length.toNat ∨ address.toNat ≤ 4096 := .inl nonempty
    have each := memory.readEach_eq_readBytes reached
    rw [readBytes_of_gt memory leaves] at each
    exact ⟨each, firstOutside_max (by omega) leaves⟩

/-- Bytes laid over a range are shown by it and by nothing else. -/
theorem shows_overlay (memory : Memory) {address : UInt16} {bytes : List UInt8}
    (inside : address.toNat + bytes.length ≤ 4096) :
    Shows memory address bytes (memory.overlay address.toNat bytes) where
  back length same := by
    have within : address.toNat + length.toNat ≤ 4096 := same ▸ inside
    rw [readSpan_of_inside _ within, same, slice_overlay memory inside]
  others other apart := by
    rw [read, read, byteAt_overlay_of_outside memory apart]
  apart other length apart := readSpan_overlay_of_apart memory apart

/-- Writing a range has to do with writing its bytes as it should. -/
theorem writesAsEach (memory : Memory) (address : UInt16) (bytes : List UInt8) :
    WritesAsEach memory address bytes where
  inside within := by
    -- A range that ends in memory starts in it.
    have reached : bytes ≠ [] ∨ address.toNat ≤ 4096 := .inr (by omega)
    have each := memory.run_writeEach reached
    rw [if_pos within] at each
    exact ⟨_, run_writeBytes_of_le memory within, each, shows_overlay memory within⟩
  outside leaves := run_writeBytes_of_gt memory leaves
  stopped nonempty leaves := by
    have reached : bytes ≠ [] ∨ address.toNat ≤ 4096 := .inl nonempty
    have each := memory.run_writeEach reached
    rw [if_neg (Nat.not_le.mpr leaves)] at each
    exact ⟨_, each⟩

/--
Access to a range of memory has the outcome of access to its bytes one after the other.

The range is refused as a whole, and before anything is written, where one of its bytes would be. Only
a range that is read with a length so great that its end is no machine word meets no such answer.
-/
theorem ranges_agree_with_bytes (memory : Memory) (address : UInt16) :
    (∀ length, ReadsAsEach memory address length) ∧
      ∀ bytes, WritesAsEach memory address bytes :=
  ⟨memory.readsAsEach address, memory.writesAsEach address⟩

/-- Of the ranges that leave memory not every one is refused with the first address outside. That
with the greatest length from address one on has no end to be compared. -/
theorem greatest_range_overflows :
    zero.readSpan 1 0xFFFFFFFFFFFFFFFF = .error .overflow ∧
      ¬ ∀ (memory : Memory) (address : UInt16) (length : UInt64),
        4096 < address.toNat + length.toNat →
          memory.readSpan address length =
            .error (.outside (.outsideMemory (max address.toNat 4096))) := by
  -- The end would be the number of all machine words.
  have overflow : zero.readSpan 1 0xFFFFFFFFFFFFFFFF = .error .overflow :=
    readSpan_of_ge zero (by decide)
  refine ⟨overflow, fun refused => ?_⟩
  have expected := refused zero 1 0xFFFFFFFFFFFFFFFF (by decide)
  rw [overflow] at expected
  cases expected

end ChipEight.Memory
