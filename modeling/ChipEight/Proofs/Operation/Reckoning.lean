import ChipEight.Machine
import ChipEight.Proofs.Operation.Addition

/-! A cycle whose sums are formed by words is the cycle with exact sums, as long as those listed for it
fit their words. -/

namespace ChipEight

/-- A way of forming sums, such as by words that wrap round or that stop at their greatest value. -/
abbrev Reckoning := Addition → Nat

namespace Reckoning

/-- Sums are formed exactly at all of the given additions. -/
def Exact (reckon : Reckoning) (additions : List Addition) : Prop :=
  ∀ addition ∈ additions, reckon addition = addition.sum

/-- Sums are formed exactly wherever they fit their words, and in any way elsewhere. -/
def Faithful (reckon : Reckoning) : Prop :=
  ∀ addition : Addition, addition.Fits → reckon addition = addition.sum

/-- Additions that all fit are formed exactly. -/
theorem Faithful.exact {reckon : Reckoning} (faithful : reckon.Faithful) {additions : List Addition}
    (fit : ∀ addition ∈ additions, addition.Fits) : reckon.Exact additions :=
  fun addition formed => faithful addition (fit addition formed)

/-- Words that wrap round are faithful. -/
theorem faithful_mod : Faithful fun addition => addition.sum % addition.room :=
  -- A sum that fits makes no full turn.
  fun _ fits => Nat.mod_eq_of_lt fits

end Reckoning

namespace Memory

/-- The end of a range that lies in memory, or the first address outside. -/
def stopBy (reckon : Reckoning) (address : UInt16) (length : Nat) : Except Fault Nat :=
  let stop := reckon (.long (address.toNat + length))
  -- An end that has wrapped round could pass this check, which is why the sum has to be exact.
  if stop ≤ 4096 then .ok stop else .error (.outsideMemory (max address.toNat 4096))

/-- The bytes up to the end of a range, or a fault unless the whole range lies in memory. -/
def readBytesBy (reckon : Reckoning) (memory : Memory) (address : UInt16) (length : Nat) :
    Except Fault (List UInt8) := do
  let stop ← stopBy reckon address length
  return memory.slice address.toNat (stop - address.toNat)

/-- Replaces the bytes up to the end of a range, or fails unless the whole range lies in memory. -/
def writeBytesBy (reckon : Reckoning) (address : UInt16) (bytes : List UInt8) :
    Attempt Memory Unit := do
  let stop ← Attempt.ofExcept (stopBy reckon address bytes.length)
  modify fun memory => memory.overlay address.toNat (bytes.take (stop - address.toNat))

end Memory

/-- Records a return address and counts it, or fails when every place is taken. -/
def ReturnStack.pushBy (reckon : Reckoning) (address : UInt16) : Attempt ReturnStack Unit := do
  let stack ← get
  if room : stack.size < 16 then
    -- There is no stack of more than sixteen calls, whatever the count is taken for.
    set ({ slots := stack.slots.set stack.size address
           size := min (reckon (.long (stack.size + 1))) 16
           size_le := Nat.min_le_right .. } : ReturnStack)
  else
    throw (.tooManyCalls 16)

namespace Screen

/-- Draws the lowest `count` bits of a byte, each in its column behind the first and at its place in
the buffer. -/
def drawBitsBy (reckon : Reckoning) (byte : UInt8) (y left : Nat) : (count : Nat) → Canvas → Canvas
  | 0, canvas => canvas
  | count + 1, (screen, collided) =>
    -- The highest of eight bits comes first.
    let column := reckon (.long (left + (7 - count)))
    if column < 64 then
      if byte.toNat.testBit count then
        let place := reckon (.long (y * 64 + column))
        let lit := screen.cells[place]?.getD false
        drawBitsBy reckon byte y left count
          ({ screen with cells := screen.cells.setIfInBounds place (!lit) }, collided || lit)
      else
        drawBitsBy reckon byte y left count (screen, collided)
    else
      (screen, collided)

/-- Draws the rows of a sprite from the given one on, each at its height below the first. -/
def drawRowsBy (reckon : Reckoning) (left top : Nat) :
    (row : Nat) → (bytes : List UInt8) → Canvas → Canvas
  | _, [], canvas => canvas
  | row, byte :: rest, canvas =>
    let y := reckon (.long (top + row))
    if y < 32 then
      drawRowsBy reckon left top (row + 1) rest (drawBitsBy reckon byte y left 8 canvas)
    else
      canvas

/-- Draws a sprite with all of its sums formed in a given way. -/
def drawBy (reckon : Reckoning) (screen : Screen) (x y : Nat) (bytes : List UInt8) :
    Screen × Bool :=
  let (drawn, collided) := drawRowsBy reckon (x % 64) (y % 32) 0 bytes (screen, false)
  (drawn.askRedraw, collided)

end Screen

namespace Hardware

/-- Takes the word at the program counter and passes it, with all sums formed in a given way. -/
def fetchBy (reckon : Reckoning) : Attempt Hardware UInt16 := do
  let hardware ← get
  if 4096 ≤ reckon (.long (hardware.pc.toNat + 1)) then
    throw (.counterOutside hardware.pc)
  let bytes ← Attempt.ofExcept (hardware.memory.readBytesBy reckon hardware.pc 2)
  set { hardware with pc := UInt16.ofNat (reckon (.short (hardware.pc.toNat + 2))) }
  return Memory.bigEndian bytes

/-- Draws the sprite at the index, with all sums formed in a given way. -/
def drawAtIndexBy (reckon : Reckoning) (x y : UInt8) (height : Nat) : Attempt Hardware Bool := do
  let hardware ← get
  let bytes ← Attempt.ofExcept (hardware.memory.readBytesBy reckon hardware.index height)
  let (screen, collided) := hardware.screen.drawBy reckon x.toNat y.toNat bytes
  set { hardware with screen }
  return collided

end Hardware

/-- What an instruction does to the hardware, with all sums formed in a given way but for those that
wrap round on purpose. -/
def Operation.effectBy (reckon : Reckoning) (operation : Operation) : Attempt Hardware Unit :=
  match operation with
  | call target => do
    let hardware ← get
    Hardware.onStack (ReturnStack.pushBy reckon hardware.pc)
    modify fun hardware => { hardware with pc := UInt16.ofNat target.val }
  | jumpAhead offset => modify fun hardware =>
    let distance := reckon (.short (offset.val + (hardware.register Register.first).toNat))
    { hardware with pc := hardware.pc + UInt16.ofNat distance }
  | draw x y height => do
    let hardware ← get
    let collided ←
      Hardware.drawAtIndexBy reckon (hardware.register x) (hardware.register y) height.val
    modify fun hardware =>
      { hardware with registers := hardware.registers.writeFlag collided }
  | addIndex x => modify fun hardware =>
    -- The sum is formed for the flag, and once more for the index, where it may wrap round.
    let sum := reckon (.middle (hardware.index.toNat + (hardware.register x).toNat))
    let registers := if 0xFFF < sum then hardware.registers.writeFlag true else hardware.registers
    { hardware with index := hardware.index + (hardware.register x).toUInt16, registers }
  | glyph x => modify fun hardware =>
    let digit := Nibble.ofByte (hardware.register x)
    let address := reckon (.short (Font.start + Font.height * digit.val))
    { hardware with index := UInt16.ofNat address }
  | digits x => do
    let hardware ← get
    Hardware.onMemory
      (Memory.writeBytesBy reckon hardware.index (decimalDigits (hardware.register x)))
  | store last => do
    let hardware ← get
    let count := reckon (.long (last.val + 1))
    let bytes := (Nibble.all.take count).map hardware.registers.read
    Hardware.onMemory (Memory.writeBytesBy reckon hardware.index bytes)
    modify fun hardware => { hardware with index := hardware.index + UInt16.ofNat count }
  | load last => do
    let hardware ← get
    let count := reckon (.long (last.val + 1))
    let bytes ← Attempt.ofExcept (hardware.memory.readBytesBy reckon hardware.index count)
    modify fun hardware => { hardware with registers := hardware.registers.writeBlock bytes }
    modify fun hardware => { hardware with index := hardware.index + UInt16.ofNat count }
  -- No other instruction forms a sum that is not meant to wrap round.
  | _ => operation.effect

namespace Memory

variable {reckon : Reckoning} {address : UInt16}

/-- A range whose end is formed exactly is read as it is with numbers. -/
theorem readBytesBy_eq {length : Nat} (memory : Memory)
    (exact : reckon (.long (address.toNat + length)) = address.toNat + length) :
    memory.readBytesBy reckon address length = memory.readBytes address length := by
  -- The bytes from the start to the exact end are as many as were asked for.
  by_cases inside : address.toNat + length ≤ 4096
  · simp [readBytesBy, stopBy, exact, readBytes, requireInside, inside, Bind.bind, Except.bind]
  · simp [readBytesBy, stopBy, exact, readBytes, requireInside, inside, Bind.bind, Except.bind]

/-- A range whose end is formed exactly is written as it is with numbers. -/
theorem writeBytesBy_eq {bytes : List UInt8}
    (exact : reckon (.long (address.toNat + bytes.length)) = address.toNat + bytes.length) :
    writeBytesBy reckon address bytes = writeBytes address bytes := by
  -- No byte is cut off at the exact end.
  refine funext fun memory => ?_
  show (writeBytesBy reckon address bytes).run memory = (writeBytes address bytes).run memory
  by_cases inside : address.toNat + bytes.length ≤ 4096
  · simp [writeBytesBy, stopBy, exact, writeBytes, requireInside, inside, Attempt.ofExcept]
  · simp [writeBytesBy, stopBy, exact, writeBytes, requireInside, inside, Attempt.ofExcept]

end Memory

/-- A count that is formed exactly is the one of the call stack. -/
theorem ReturnStack.run_pushBy {reckon : Reckoning} (stack : ReturnStack) (address : UInt16)
    (exact : reckon (.long (stack.size + 1)) = stack.size + 1) :
    (pushBy reckon address).run stack = (push address).run stack := by
  by_cases room : stack.size < 16
  · -- The exact count is at most sixteen, so nothing is cut off.
    simp [pushBy, push, room, exact, Nat.succ_le_of_lt room]
  · -- Without room neither of them counts.
    simp [pushBy, push, room]

namespace Screen

variable {reckon : Reckoning} {left top rows : Nat}

/-- A pixel that is toggled at its place in the buffer is toggled at its column and height. -/
theorem toggle_eq (screen : Screen) (x : Fin 64) (y : Fin 32) :
    screen.toggle x y =
      { screen with
        cells := screen.cells.setIfInBounds (y.val * 64 + x.val)
          (!(screen.cells[y.val * 64 + x.val]?.getD false)) } := by
  -- The place lies in the buffer, so nothing is dropped.
  have within : y.val * 64 + x.val < 2048 := by omega
  have cells : screen.cells.set (y.val * 64 + x.val) (!screen.cells[y.val * 64 + x.val]) =
      screen.cells.setIfInBounds (y.val * 64 + x.val) (!screen.cells[y.val * 64 + x.val]) :=
    Vector.ext fun place _ => by rw [Vector.getElem_set, Vector.getElem_setIfInBounds]
  simp only [toggle, Vector.getElem?_eq_getElem within, Option.getD_some, cells]

/-- The bits of a row whose sums are formed exactly are drawn as they are with numbers. -/
theorem drawBitsBy_eq (byte : UInt8) {row : Nat} (within : top + row < 32) (listed : row < rows)
    (exact : reckon.Exact (additions left top rows)) {count : Nat} (few : count ≤ 8)
    (canvas : Canvas) :
    drawBitsBy reckon byte (top + row) left count canvas =
      drawBits byte ⟨top + row, within⟩ (left + (8 - count)) count canvas := by
  -- Each turn draws one bit and leaves the bits below it, whose first column is the next one.
  induction count generalizing canvas with
  | zero => rfl
  | succ count ih =>
    -- With numbers the columns are counted up, and here each is reckoned from the first.
    obtain ⟨screen, collided⟩ := canvas
    have later := ih (by omega)
    have here : 8 - (count + 1) = 7 - count := by omega
    have next : left + (7 - count) + 1 = left + (8 - count) := by omega
    have inByte : 7 - count < 8 := by omega
    obtain ⟨column, place⟩ := @mem_additions_bit left top rows _ _ listed inByte
    have column : reckon (.long (left + (7 - count))) = left + (7 - count) := exact _ column
    have place : reckon (.long ((top + row) * 64 + (left + (7 - count)))) =
        (top + row) * 64 + (left + (7 - count)) := exact _ place
    simp only [drawBitsBy, drawBits, column, here, next]
    by_cases narrow : left + (7 - count) < 64
    · have lit : screen.cells[(top + row) * 64 + (left + (7 - count))]?.getD false =
          screen.pixel (left + (7 - count)) (top + row) := by
        simp only [pixel, narrow, within, and_self, dite_true]
        rw [Vector.getElem?_eq_getElem, Option.getD_some]
      simp only [narrow, if_true, dite_true, place]
      split
      · rw [later, toggle_eq, lit]
      · -- A bit that is not set leaves its pixel alone on both sides.
        exact later _
    · -- Behind the right edge neither side draws any more.
      simp only [narrow, if_false, dite_false]

/-- The rows of a sprite whose sums are formed exactly are drawn as they are with numbers. -/
theorem drawRowsBy_eq (exact : reckon.Exact (additions left top rows)) {bytes : List UInt8}
    {row : Nat} (few : row + bytes.length ≤ rows) (canvas : Canvas) :
    drawRowsBy reckon left top row bytes canvas = drawRows left (top + row) bytes canvas := by
  -- The rows below the first one start at the next height.
  induction bytes generalizing row canvas with
  | nil => rfl
  | cons byte rest ih =>
    have listed : row < rows := by
      rw [List.length_cons] at few
      omega
    have height : reckon (.long (top + row)) = top + row := exact _ (mem_additions_row listed)
    have later := @ih (row + 1) (by rw [List.length_cons] at few; omega)
    simp only [drawRowsBy, drawRows, height]
    by_cases within : top + row < 32
    · simp only [within, if_true, dite_true]
      rw [later, drawBitsBy_eq byte within listed exact (Nat.le_refl 8)]
      rfl
    · -- Below the last line neither side draws any more.
      simp only [within, if_false, dite_false]

/-- A sprite whose sums are formed exactly is drawn as it is with numbers. -/
theorem drawBy_eq (screen : Screen) {x y : Nat} {bytes : List UInt8}
    (exact : reckon.Exact (additions (x % 64) (y % 32) bytes.length)) :
    screen.drawBy reckon x y bytes = screen.draw x y bytes := by
  -- The first row is the one at the height of the sprite itself.
  have drawn := drawRowsBy_eq exact (Nat.le_of_eq (Nat.zero_add _)) (screen, false)
  simp only [drawBy, draw, drawn, Nat.add_zero]

end Screen

namespace Hardware

variable {reckon : Reckoning}

/-- A fetch whose sums are formed exactly is the one with numbers. -/
theorem run_fetchBy (hardware : Hardware) (exact : reckon.Exact hardware.fetchAdditions) :
    (fetchBy reckon).run hardware = fetch.run hardware := by
  -- All three sums of the fetch are listed for it.
  have check : reckon (.long (hardware.pc.toNat + 1)) = hardware.pc.toNat + 1 :=
    exact _ (by simp [fetchAdditions])
  have range : reckon (.long (hardware.pc.toNat + 2)) = hardware.pc.toNat + 2 :=
    exact _ (by simp [fetchAdditions])
  have next : reckon (.short (hardware.pc.toNat + 2)) = hardware.pc.toNat + 2 :=
    exact _ (by simp [fetchAdditions])
  have read := hardware.memory.readBytesBy_eq range
  have passed : UInt16.ofNat (hardware.pc.toNat + 2) = hardware.pc + 2 := by
    rw [UInt16.ofNat_add, UInt16.ofNat_toNat]
    rfl
  simp only [fetchBy, fetch, EStateM.run_bind, EStateM.run_get, check, next, passed, read]

/-- A sprite at the index whose sums are formed exactly is drawn as it is with numbers. -/
theorem run_drawAtIndexBy (hardware : Hardware) {x y : UInt8} {height : Nat}
    (range : reckon (.long (hardware.index.toNat + height)) = hardware.index.toNat + height)
    (exact : reckon.Exact (Screen.additions (x.toNat % 64) (y.toNat % 32) height)) :
    (drawAtIndexBy reckon x y height).run hardware = (drawAtIndex x y height).run hardware := by
  have read := hardware.memory.readBytesBy_eq range
  by_cases inside : hardware.index.toNat + height ≤ 4096
  · -- The sprite has as many rows as were asked for.
    have bytes := hardware.memory.readBytes_of_le inside
    have drawn : hardware.screen.drawBy reckon x.toNat y.toNat
        (hardware.memory.slice hardware.index.toNat height) =
          hardware.screen.draw x.toNat y.toNat
            (hardware.memory.slice hardware.index.toNat height) :=
      hardware.screen.drawBy_eq (by rwa [Memory.length_slice])
    simp [drawAtIndexBy, drawAtIndex, read, bytes, drawn]
  · -- A range that leaves memory is refused before anything is drawn.
    have bytes := hardware.memory.readBytes_of_gt (Nat.not_le.mp inside)
    simp [drawAtIndexBy, drawAtIndex, read, bytes]

end Hardware

/-- A block transfer counts its registers exactly, and so it does with the end of its range. -/
theorem Operation.exact_transfer {reckon : Reckoning} {hardware : Hardware} {last : Register}
    (exact : reckon.Exact ((load last).additions hardware)) :
    reckon (.long (last.val + 1)) = last.val + 1 ∧
      reckon (.long (hardware.index.toNat + (last.val + 1))) =
        hardware.index.toNat + (last.val + 1) :=
  -- These two are all the sums that it forms.
  ⟨exact _ (by simp [additions]), exact _ (by simp [additions])⟩

/-- An instruction whose sums are formed exactly does what it does with numbers. -/
theorem Operation.run_effectBy {reckon : Reckoning} {operation : Operation} {hardware : Hardware}
    (exact : reckon.Exact (operation.additions hardware)) :
    (operation.effectBy reckon).run hardware = operation.effect.run hardware := by
  -- All sums of an instruction are listed, so that each of them is exact where it is used.
  cases operation with
  | call target =>
    have count : reckon (.long (hardware.stack.size + 1)) = hardware.stack.size + 1 :=
      exact _ (by simp [additions])
    have pushed := hardware.stack.run_pushBy hardware.pc count
    simp only [effectBy, effect, EStateM.run_bind, EStateM.run_get, Hardware.onStack,
      Attempt.run_inside, pushed]
  | jumpAhead offset =>
    -- The distance is exact, and adding it to the counter is left to the word on both sides.
    have distance : reckon (.short (offset.val + (hardware.register Register.first).toNat)) =
        offset.val + (hardware.register Register.first).toNat := exact _ (by simp [additions])
    simp only [effectBy, effect, EStateM.run_modify, distance, UInt16.ofNat_add,
      UInt16.ofNat_uInt8ToNat]
  | draw x y height =>
    -- The bound of the sprite is the first of the sums, and those of its pixels come behind it.
    have range : reckon (.long (hardware.index.toNat + height.val)) =
        hardware.index.toNat + height.val := exact _ (by simp [additions])
    have pixels : reckon.Exact (Screen.additions ((hardware.register x).toNat % 64)
        ((hardware.register y).toNat % 32) height.val) :=
      fun addition formed => exact addition (List.mem_cons_of_mem _ formed)
    have drawn := hardware.run_drawAtIndexBy range pixels
    simp only [effectBy, effect, EStateM.run_bind, EStateM.run_get, drawn]
  | addIndex x =>
    -- The sum for the flag is exact, and the index takes it as a word on both sides.
    have sum : reckon (.middle (hardware.index.toNat + (hardware.register x).toNat)) =
        hardware.index.toNat + (hardware.register x).toNat := exact _ (by simp [additions])
    simp only [effectBy, effect, EStateM.run_modify, sum, UInt16.ofNat_add, UInt16.ofNat_toNat,
      UInt16.ofNat_uInt8ToNat]
  | glyph x =>
    have address : reckon
          (.short (Font.start + Font.height * (Nibble.ofByte (hardware.register x)).val)) =
        Font.start + Font.height * (Nibble.ofByte (hardware.register x)).val :=
      exact _ (by simp [additions])
    simp only [effectBy, effect, EStateM.run_modify, address]
  | digits x =>
    have written : Memory.writeBytesBy reckon hardware.index
        (decimalDigits (hardware.register x)) =
          Memory.writeBytes hardware.index (decimalDigits (hardware.register x)) :=
      Memory.writeBytesBy_eq (exact (.long (hardware.index.toNat + 3)) (by simp [additions]))
    simp only [effectBy, effect, EStateM.run_bind, EStateM.run_get, written]
  | store last =>
    -- The sums of a store are those of a load.
    obtain ⟨count, range⟩ := exact_transfer exact
    have block : (Nibble.all.take (last.val + 1)).map hardware.registers.read =
        hardware.registers.block last := rfl
    have written : Memory.writeBytesBy reckon hardware.index (hardware.registers.block last) =
        Memory.writeBytes hardware.index (hardware.registers.block last) :=
      Memory.writeBytesBy_eq (by rwa [Registers.length_block])
    simp only [effectBy, effect, EStateM.run_bind, EStateM.run_get, count, block, written]
  | load last =>
    obtain ⟨count, range⟩ := exact_transfer exact
    have read := hardware.memory.readBytesBy_eq range
    simp only [effectBy, effect, EStateM.run_bind, EStateM.run_get, count, read]
  -- No other instruction has sums of its own.
  | _ => rfl

end ChipEight
