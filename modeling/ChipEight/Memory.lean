import ChipEight.Attempt
import ChipEight.Font

/-! The four kilobytes of memory shared by the font, the program and its data. -/

namespace ChipEight

/-- The 4096 bytes of memory. -/
structure Memory where
  /-- One byte for each address. -/
  bytes : Vector UInt8 4096
deriving DecidableEq

namespace Memory

/-- Memory that holds zeros only. -/
def zero : Memory where
  bytes := Vector.replicate 4096 0

/-- The byte at an address, or zero past the end of memory. -/
def byteAt (memory : Memory) (address : Nat) : UInt8 :=
  memory.bytes[address]?.getD 0

/-- The bytes at consecutive addresses, with zeros past the end of memory. -/
def slice (memory : Memory) (start length : Nat) : List UInt8 :=
  (List.range length).map fun offset => memory.byteAt (start + offset)

/-- The word that bytes spell, high byte first. -/
def bigEndian (bytes : List UInt8) : UInt16 :=
  bytes.foldl (fun word byte => word <<< 8 ||| byte.toUInt16) 0

/-- The word at an address, high byte first. -/
def wordAt (memory : Memory) (address : Nat) : UInt16 :=
  bigEndian (memory.slice address 2)

/-- Replaces the byte at an address, or nothing past the end of memory. -/
def put (memory : Memory) (address : Nat) (byte : UInt8) : Memory where
  bytes := memory.bytes.setIfInBounds address byte

/-- Replaces the bytes at consecutive addresses, dropping those past the end of memory. -/
def overlay (memory : Memory) (start : Nat) : List UInt8 → Memory
  | [] => memory
  | byte :: rest => (memory.put start byte).overlay (start + 1) rest

/-- Zeros everywhere but for the font. -/
def powerOn : Memory :=
  zero.overlay Font.start Font.bytes

/-- Passes a range that lies in memory, and otherwise names the first address outside. -/
def requireInside (address : UInt16) (length : Nat) : Except Fault Unit :=
  if address.toNat + length ≤ 4096 then
    .ok ()
  else
    .error (.outsideMemory (max address.toNat 4096))

/-- The byte at an address of the program. -/
def read (memory : Memory) (address : UInt16) : Except Fault UInt8 :=
  if address.toNat < 4096 then
    .ok (memory.byteAt address.toNat)
  else
    .error (.outsideMemory address.toNat)

/-- Replaces the byte at an address of the program. -/
def write (address : UInt16) (byte : UInt8) : Attempt Memory Unit :=
  if address.toNat < 4096 then
    modify fun memory => memory.put address.toNat byte
  else
    throw (.outsideMemory address.toNat)

/-- The bytes of a range, or a fault unless the whole range lies in memory. -/
def readBytes (memory : Memory) (address : UInt16) (length : Nat) :
    Except Fault (List UInt8) := do
  requireInside address length
  return memory.slice address.toNat length

/-- Replaces the bytes of a range, or fails unless the whole range lies in memory. -/
def writeBytes (address : UInt16) (bytes : List UInt8) : Attempt Memory Unit := do
  Attempt.ofExcept (requireInside address bytes.length)
  modify fun memory => memory.overlay address.toNat bytes

/-- Copies a program image to the program area, or fails if it has too many bytes. -/
def loadRom (bytes : List UInt8) : Attempt Memory Unit := do
  if 3584 < bytes.length then
    throw (.unloadable (.tooLarge bytes.length))
  writeBytes (UInt16.ofNat programStart) bytes

/-- Memories that agree at every address are the same. -/
@[ext] theorem ext {first second : Memory}
    (same : ∀ address < 4096, first.byteAt address = second.byteAt address) :
    first = second := by
  -- Within memory the total view is the stored byte.
  obtain ⟨left⟩ := first
  obtain ⟨right⟩ := second
  have : left = right := Vector.ext fun index within => by
    simpa [byteAt, within] using same index within
  rw [this]

/-- Memory of zeros reads zero everywhere. -/
@[simp] theorem byteAt_zero (address : Nat) : zero.byteAt address = 0 := by
  -- Inside memory the byte is the repeated zero, and outside it is the default.
  by_cases within : address < 4096 <;> simp [zero, byteAt, within]

/-- A replaced byte is seen at its own address and at no other. -/
theorem byteAt_put (memory : Memory) (written address : Nat) (byte : UInt8) :
    (memory.put written byte).byteAt address =
      if written = address ∧ address < 4096 then byte else memory.byteAt address := by
  -- A write outside memory is dropped, as its address reads the default anyway.
  simp only [byteAt, put, Vector.getElem?_setIfInBounds]
  by_cases same : written = address
  · subst same
    by_cases within : written < 4096 <;> simp [within]
  · simp [same]

/-- After an overlay an address reads the byte laid over it, or what it held before. -/
theorem byteAt_overlay (memory : Memory) (start : Nat) (bytes : List UInt8) (address : Nat) :
    (memory.overlay start bytes).byteAt address =
      if start ≤ address ∧ address < 4096 then
        bytes[address - start]?.getD (memory.byteAt address)
      else memory.byteAt address := by
  -- Later bytes of the list lie at later addresses, so none is overwritten.
  induction bytes generalizing memory start with
  | nil => simp [overlay]
  | cons byte rest ih =>
    rw [overlay, ih, byteAt_put]
    by_cases same : start = address
    · subst same
      have : ¬ start + 1 ≤ start := by omega
      simp [this]
    · by_cases later : start + 1 ≤ address
      · have before : start ≤ address := by omega
        have position : address - start = (address - (start + 1)) + 1 := by omega
        simp [later, before, position, same]
      · have before : ¬ start ≤ address := by omega
        simp [later, before, same]

/-- Bytes laid over memory are seen nowhere but in their range. -/
theorem byteAt_overlay_of_outside (memory : Memory) {start address : Nat}
    {bytes : List UInt8} (outside : address < start ∨ start + bytes.length ≤ address) :
    (memory.overlay start bytes).byteAt address = memory.byteAt address := by
  rw [byteAt_overlay]
  split
  case isFalse => rfl
  case isTrue reached =>
    -- Past the last of the bytes there is none to be seen.
    have none : bytes.length ≤ address - start := by omega
    rw [List.getElem?_eq_none none, Option.getD_none]

/-- Memory at power-on holds the font in its place and zeros elsewhere. -/
theorem byteAt_powerOn {address : Nat} (within : address < 4096) :
    powerOn.byteAt address =
      if 0x50 ≤ address ∧ address < 0xA0 then Font.bytes[address - 0x50]?.getD 0 else 0 := by
  by_cases glyph : 0x50 ≤ address ∧ address < 0xA0
  · rw [if_pos glyph, powerOn, byteAt_overlay, if_pos ⟨glyph.1, within⟩, byteAt_zero, Font.start]
  · -- The glyphs take up eighty bytes, and the other addresses lie before or behind them.
    have outside : address < Font.start ∨ Font.start + Font.bytes.length ≤ address := by
      rw [Font.start, Font.length_bytes]
      omega
    rw [if_neg glyph, powerOn, byteAt_overlay_of_outside _ outside, byteAt_zero]

/-- Memory with a program image holds the font and the image in their places and zeros elsewhere. -/
theorem byteAt_overlay_powerOn (bytes : List UInt8) {address : Nat} (within : address < 4096) :
    (powerOn.overlay programStart bytes).byteAt address =
      if 0x200 ≤ address then bytes[address - 0x200]?.getD 0
      else if 0x50 ≤ address ∧ address < 0xA0 then Font.bytes[address - 0x50]?.getD 0
      else 0 := by
  by_cases program : programStart ≤ address
  · -- The font ends before the program begins.
    have behind : ¬ (0x50 ≤ address ∧ address < 0xA0) := by
      rw [programStart] at program
      omega
    rw [byteAt_overlay, if_pos ⟨program, within⟩, byteAt_powerOn within, if_neg behind]
    exact (if_pos program).symm
  · -- The image leaves alone what lies before it.
    have before : address < programStart := Nat.not_le.mp program
    rw [byteAt_overlay_of_outside _ (.inl before), byteAt_powerOn within]
    exact (if_neg program).symm

/-- A slice has the requested length. -/
@[simp] theorem length_slice (memory : Memory) (start length : Nat) :
    (memory.slice start length).length = length := by
  simp [slice]

/-- The word at an address is its byte in the upper half and the next byte in the lower half. -/
theorem toNat_wordAt (memory : Memory) (address : Nat) :
    (memory.wordAt address).toNat =
      256 * (memory.byteAt address).toNat + (memory.byteAt (address + 1)).toNat := by
  -- The moved byte and the other one have no bit in common, so joining them adds them up.
  have high := (memory.byteAt address).toNat_lt
  have low := (memory.byteAt (address + 1)).toNat_lt
  have slice : memory.slice address 2 = [memory.byteAt address, memory.byteAt (address + 1)] := rfl
  have apart := Nat.two_pow_add_eq_or_of_lt low (memory.byteAt address).toNat
  have moved : (memory.byteAt address).toNat <<< 8 % 65536 =
      256 * (memory.byteAt address).toNat := by
    rw [Nat.shiftLeft_eq]
    omega
  rw [wordAt, slice]
  simp only [bigEndian, List.foldl_cons, List.foldl_nil, UInt16.toNat_or, UInt16.toNat_shiftLeft]
  simpa [moved] using apart.symm

/-- A range that lies in memory is read in full. -/
theorem readBytes_of_le (memory : Memory) {address : UInt16} {length : Nat}
    (inside : address.toNat + length ≤ 4096) :
    memory.readBytes address length = .ok (memory.slice address.toNat length) := by
  simp [readBytes, requireInside, inside, Bind.bind, Except.bind, Pure.pure, Except.pure]

/-- A range that leaves memory is not read at all. -/
theorem readBytes_of_gt (memory : Memory) {address : UInt16} {length : Nat}
    (outside : 4096 < address.toNat + length) :
    memory.readBytes address length = .error (.outsideMemory (max address.toNat 4096)) := by
  have refused : ¬ address.toNat + length ≤ 4096 := by omega
  simp [readBytes, requireInside, refused, Bind.bind, Except.bind]

/-- Bytes are laid over a range that lies in memory. -/
theorem run_writeBytes_of_le (memory : Memory) {address : UInt16} {bytes : List UInt8}
    (inside : address.toNat + bytes.length ≤ 4096) :
    (writeBytes address bytes).run memory = .ok () (memory.overlay address.toNat bytes) := by
  simp [writeBytes, requireInside, inside]

/-- A range that leaves memory is not written at all. -/
theorem run_writeBytes_of_gt (memory : Memory) {address : UInt16} {bytes : List UInt8}
    (outside : 4096 < address.toNat + bytes.length) :
    (writeBytes address bytes).run memory =
      .error (.outsideMemory (max address.toNat 4096)) memory := by
  have refused : ¬ address.toNat + bytes.length ≤ 4096 := by omega
  simp [writeBytes, requireInside, refused]

/-- An image that fits is copied without any check failing. -/
theorem run_loadRom_of_le (memory : Memory) {bytes : List UInt8} (fits : bytes.length ≤ 3584) :
    (loadRom bytes).run memory = .ok () (memory.overlay programStart bytes) := by
  -- What fits behind the program start ends at the end of memory.
  have small : ¬ 3584 < bytes.length := Nat.not_lt.mpr fits
  have start : (UInt16.ofNat programStart).toNat = programStart := rfl
  have inside : (UInt16.ofNat programStart).toNat + bytes.length ≤ 4096 := by
    rw [start, programStart]
    omega
  have copied := memory.run_writeBytes_of_le inside
  rw [start] at copied
  simpa [loadRom, small] using copied

end Memory

end ChipEight
