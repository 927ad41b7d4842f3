import ChipEight.Proofs.Operation.Code
import ChipEight.Proofs.Operation.Success

/-! The places of the hardware that each instruction may change, all others being left alone. -/

namespace ChipEight

/-- A place of the hardware that can change while the others stay as they are. -/
inductive Place where
  /-- One of the registers. -/
  | register (number : Register)
  /-- One byte of memory. -/
  | byte (address : Nat)
  /-- The program counter. -/
  | counter
  /-- The index. -/
  | index
  /-- The call stack with all of its places. -/
  | stack
  /-- The pixels and the redraw flag. -/
  | screen
  /-- The delay timer. -/
  | delay
  /-- The sound timer. -/
  | sound
  /-- The keys. -/
  | keypad
  /-- The random source with its position. -/
  | random
deriving DecidableEq

/-- Whether two states of the hardware agree at a place. -/
def Place.Same (place : Place) (first second : Hardware) : Prop :=
  match place with
  | register number => first.register number = second.register number
  | byte address => first.memory.byteAt address = second.memory.byteAt address
  | counter => first.pc = second.pc
  | index => first.index = second.index
  | stack => first.stack = second.stack
  | screen => first.screen = second.screen
  | delay => first.delay = second.delay
  | sound => first.sound = second.sound
  | keypad => first.keypad = second.keypad
  | random => first.random = second.random

/-- Two states that agree with a third one at a place agree with each other there. -/
theorem Place.Same.trans {place : Place} {first second third : Hardware}
    (left : place.Same first second) (right : place.Same second third) :
    place.Same first third := by
  -- At each place agreeing is an equation.
  cases place <;> exact Eq.trans left right

/-- The places are all there is to the hardware. -/
theorem Hardware.eq_of_same {first second : Hardware}
    (same : ∀ place : Place, place.Same first second) : first = second := by
  -- Memory and registers agree as wholes once each of their bytes does.
  have memory : first.memory = second.memory := Memory.ext fun address _ => same (.byte address)
  have registers : first.registers = second.registers :=
    Registers.ext fun number => same (.register number)
  obtain ⟨_, _, _, _, _, _, _, _, _, _⟩ := first
  obtain ⟨_, _, _, _, _, _, _, _, _, _⟩ := second
  cases memory
  cases registers
  cases same .counter
  cases same .index
  cases same .stack
  cases same .delay
  cases same .sound
  cases same .screen
  cases same .keypad
  cases same .random
  rfl

namespace Registers

/-- Registers that none of several writes is about keep their bytes. -/
theorem read_foldl_write_of_notMem (registers : Registers) (writes : List (Register × UInt8))
    {number : Register} (elsewhere : number ∉ writes.map Prod.fst) :
    (writes.foldl (fun filled pair => filled.write pair.1 pair.2) registers).read number =
      registers.read number := by
  -- Each write leaves the register to the writes behind it, which leave it as well.
  induction writes generalizing registers with
  | nil => rfl
  | cons first rest ih =>
    rw [List.map_cons, List.mem_cons, not_or] at elsewhere
    rw [List.foldl_cons, ih _ elsewhere.2, read_write_of_ne _ _ (Ne.symm elsewhere.1)]

/-- As many registers are paired with the bytes of a block as there are bytes. -/
theorem map_fst_zip_all {last : Register} {bytes : List UInt8}
    (enough : bytes.length = last.val + 1) :
    (Nibble.all.zip bytes).map Prod.fst = last.through := by
  -- There are as many registers as the longest block has bytes, so the shorter list is that of the
  -- bytes.
  have few : bytes.length ≤ Nibble.all.length := by
    rw [enough, Nibble.all, List.length_finRange]
    omega
  rw [List.zip_eq_zip_take_min, Nat.min_eq_right few, List.take_length, List.map_fst_zip, enough]
  · rfl
  · exact List.length_take_le _ _

/-- A block is written to its own registers and to no others. -/
theorem read_writeBlock_of_notMem (registers : Registers) {last number : Register}
    {bytes : List UInt8} (enough : bytes.length = last.val + 1)
    (elsewhere : number ∉ last.through) :
    (registers.writeBlock bytes).read number = registers.read number := by
  -- The writes of the block are about just these registers.
  apply read_foldl_write_of_notMem
  rw [map_fst_zip_all enough]
  exact elsewhere

end Registers

/-- The places of the bytes of a range of memory. -/
def Place.bytes (start length : Nat) : List Place :=
  (List.range' start length).map byte

/-- Bytes laid over memory change no place outside of their range. -/
theorem Memory.byteAt_eq_of_notMem_bytes (memory : Memory) {start address length : Nat}
    {bytes : List UInt8} (enough : bytes.length = length)
    (elsewhere : Place.byte address ∉ Place.bytes start length) :
    memory.byteAt address = (memory.overlay start bytes).byteAt address := by
  -- An address between the ends of the range would be one of those listed.
  have missed : ¬ (start ≤ address ∧ address < start + length) := by
    intro inside
    exact elsewhere (List.mem_map_of_mem (List.mem_range'_1.mpr inside))
  exact (memory.byteAt_overlay_of_outside (by omega)).symm

namespace Operation

/-- The places that an instruction may change, given the index that it finds. -/
def footprint (operation : Operation) (hardware : Hardware) : List Place :=
  match operation with
  | clear => [.screen]
  | ret | call _ => [.counter, .stack]
  | jump _ | jumpAhead _ => [.counter]
  | skipIfByte _ _ | skipUnlessByte _ _ | skipIfEqual _ _ | skipUnlessEqual _ _ => [.counter]
  | skipIfDown _ | skipUnlessDown _ => [.counter]
  | setByte x _ | addByte x _ | copy x _ | readDelay x => [.register x]
  | or x _ | and x _ | xor x _ | add x _ | subtract x _ | shiftRight x _ | subtractFrom x _
  | shiftLeft x _ => [.register x, .register Register.flag]
  | setIndex _ | glyph _ => [.index]
  | random x _ => [.register x, .random]
  | draw _ _ _ => [.register Register.flag, .screen]
  | awaitKey x => [.register x, .counter]
  | setDelay _ => [.delay]
  | setSound _ => [.sound]
  | addIndex _ => [.register Register.flag, .index]
  | digits _ => Place.bytes hardware.index.toNat 3
  | store last => .index :: Place.bytes hardware.index.toNat (last.val + 1)
  | load last => .index :: last.through.map Place.register

variable {before after : Hardware} {place : Place}

/-- A byte put into a register changes no other place. -/
theorem same_setRegister {x : Register} (byte : UInt8) (elsewhere : place ∉ [.register x]) :
    place.Same before (before.setRegister x byte) := by
  cases place with
  | register number =>
    -- A place outside of the footprint is another register.
    have apart : x ≠ number := by
      rintro rfl
      exact elsewhere List.mem_cons_self
    exact (before.registers.read_write_of_ne byte apart).symm
  | _ => rfl

/-- A byte put into a register with a flag changes no place but the two. -/
theorem same_setFlagged {x : Register} (byte : UInt8) (flag : Bool)
    (elsewhere : place ∉ [.register x, .register Register.flag]) :
    place.Same before (before.setFlagged x byte flag) := by
  -- It is the same as putting the byte into the register and then the flag into its own.
  rw [List.mem_cons, not_or] at elsewhere
  have written : place.Same before (before.setRegister x byte) :=
    same_setRegister byte fun listed => elsewhere.1 (List.mem_singleton.mp listed)
  exact written.trans (same_setRegister flag.toUInt8 elsewhere.2)

/-- Passing over a word or not changes no place but the counter. -/
theorem same_skipWhen (condition : Bool) (elsewhere : place ∉ [.counter]) :
    place.Same before (before.skipWhen condition) := by
  cases condition with
  | false => cases place <;> rfl
  | true =>
    cases place with
    -- The counter would have been in the footprint.
    | counter => exact absurd List.mem_cons_self elsewhere
    | _ => rfl

/-- An instruction that is carried out leaves every place outside of its footprint as it was. -/
theorem same_of_effect {operation : Operation}
    (carriedOut : operation.effect.run before = .ok () after)
    (elsewhere : place ∉ operation.footprint before) : place.Same before after := by
  -- Apart from the six that can fail, an instruction makes one change, which is read off.
  cases operation with
  | clear =>
    rw [Attempt.ok_of_modify carriedOut]
    cases place with
    | screen => exact absurd List.mem_cons_self elsewhere
    | _ => rfl
  -- Return and call change the stack and the counter together.
  | ret =>
    obtain ⟨address, stack, -, rfl⟩ := ok_of_ret carriedOut
    cases place with
    | counter | stack => exact absurd (by simp [footprint]) elsewhere
    | _ => rfl
  | call target =>
    obtain ⟨stack, -, rfl⟩ := ok_of_call carriedOut
    cases place with
    | counter | stack => exact absurd (by simp [footprint]) elsewhere
    | _ => rfl
  -- These change the counter alone, in one way or another.
  | jump _ | jumpAhead _ =>
    rw [Attempt.ok_of_modify carriedOut]
    cases place with
    | counter => exact absurd List.mem_cons_self elsewhere
    | _ => rfl
  | skipIfByte _ _ | skipUnlessByte _ _ | skipIfEqual _ _ | skipUnlessEqual _ _ | skipIfDown _
  | skipUnlessDown _ =>
    rw [Attempt.ok_of_modify carriedOut]
    exact same_skipWhen _ elsewhere
  -- These put a byte into the register that is their footprint.
  | setByte _ _ | addByte _ _ | copy _ _ | readDelay _ =>
    rw [Attempt.ok_of_modify carriedOut]
    exact same_setRegister _ elsewhere
  -- These put a byte into a register and a flag behind it.
  | or _ _ | and _ _ | xor _ _ | add _ _ | subtract _ _ | shiftRight _ _ | subtractFrom _ _
  | shiftLeft _ _ =>
    rw [Attempt.ok_of_modify carriedOut]
    exact same_setFlagged _ _ elsewhere
  | setIndex _ | glyph _ =>
    rw [Attempt.ok_of_modify carriedOut]
    cases place with
    | index => exact absurd List.mem_cons_self elsewhere
    | _ => rfl
  | random x mask =>
    rw [Attempt.ok_of_modify carriedOut]
    -- The source moves on before its byte is put into the register.
    have moved : place.Same before { before with random := before.random.next.2 } := by
      cases place with
      | random => exact absurd (by simp [footprint]) elsewhere
      | _ => rfl
    refine moved.trans (same_setRegister _ fun listed => ?_)
    exact elsewhere (List.mem_append_left [Place.random] listed)
  | draw x y height =>
    obtain ⟨screen, collided, -, -, rfl⟩ := ok_of_draw carriedOut
    -- The screen changes before the flag is put into its register.
    have drawn : place.Same before { before with screen } := by
      cases place with
      | screen => exact absurd (by simp [footprint]) elsewhere
      | _ => rfl
    refine drawn.trans (same_setRegister collided.toUInt8 fun listed => ?_)
    exact elsewhere (List.mem_append_left [Place.screen] listed)
  | awaitKey x =>
    rw [Attempt.ok_of_modify carriedOut]
    -- A key goes to the register, and the lack of one to the counter.
    cases before.keypad.first? with
    | some key => exact same_setRegister _ fun listed => elsewhere (List.mem_append_left _ listed)
    | none =>
      cases place with
      | counter => exact absurd (by simp [footprint]) elsewhere
      | _ => rfl
  | setDelay x =>
    rw [Attempt.ok_of_modify carriedOut]
    cases place with
    | delay => exact absurd List.mem_cons_self elsewhere
    | _ => rfl
  | setSound x =>
    rw [Attempt.ok_of_modify carriedOut]
    cases place with
    | sound => exact absurd List.mem_cons_self elsewhere
    | _ => rfl
  | addIndex x =>
    rw [Attempt.ok_of_modify carriedOut]
    cases place with
    | index => exact absurd (by simp [footprint]) elsewhere
    | register number =>
      -- The flag is raised or left alone, and the other registers are not touched.
      have apart : Register.flag ≠ number := by
        rintro rfl
        exact elsewhere List.mem_cons_self
      show before.registers.read number = (ite _ _ _ : Registers).read number
      split
      · exact (before.registers.read_write_of_ne _ apart).symm
      · rfl
    | _ => rfl
  -- The digits are three bytes from the index on.
  | digits x =>
    obtain ⟨-, rfl⟩ := ok_of_digits carriedOut
    cases place with
    | byte address => exact before.memory.byteAt_eq_of_notMem_bytes rfl elsewhere
    | _ => rfl
  -- The block is as long as the footprint is, and the index is the one place besides.
  | store last =>
    obtain ⟨-, rfl⟩ := ok_of_store carriedOut
    cases place with
    | byte address =>
      exact before.memory.byteAt_eq_of_notMem_bytes (before.registers.length_block last)
        fun listed => elsewhere (List.mem_cons_of_mem _ listed)
    | index => exact absurd List.mem_cons_self elsewhere
    | _ => rfl
  -- The bytes go to the registers through the last one.
  | load last =>
    obtain ⟨-, rfl⟩ := ok_of_load carriedOut
    cases place with
    | register number =>
      refine (Registers.read_writeBlock_of_notMem _ (Memory.length_slice ..) fun listed => ?_).symm
      exact elsewhere (List.mem_cons_of_mem _ (List.mem_map_of_mem listed))
    | index => exact absurd List.mem_cons_self elsewhere
    | _ => rfl

/-- A word that has been obeyed spells the instruction that was carried out. -/
theorem ok_of_obey {word : UInt16} (obeyed : (obey word).run before = .ok () after) :
    ∃ operation : Operation, operation.code = word.toNat ∧
      operation.effect.run before = .ok () after := by
  -- What was decoded from the word is the instruction that was carried out.
  obtain ⟨operation, _, decoded, carriedOut⟩ := Attempt.ok_of_bind obeyed
  obtain ⟨read, rfl⟩ := Attempt.ok_of_ofExcept decoded
  exact ⟨operation, (decode_eq_ok_iff word operation).mp read, carriedOut⟩

/-- An instruction that is carried out leaves every place outside of its footprint as it was, the
words that are obeyed are those of such instructions, and there is nothing to the hardware besides
the places. -/
theorem effect_keeps_places_outside_footprint :
    (∀ (operation : Operation) (before after : Hardware),
      operation.effect.run before = .ok () after →
        ∀ place ∉ operation.footprint before, place.Same before after) ∧
    (∀ (word : UInt16) (before after : Hardware), (obey word).run before = .ok () after →
      ∃ operation : Operation, operation.code = word.toNat ∧
        operation.effect.run before = .ok () after) ∧
    ∀ first second : Hardware, first = second ↔ ∀ place : Place, place.Same first second := by
  refine ⟨?_, ?_, ?_⟩
  · -- The footprint is read off each instruction.
    intro operation before after carriedOut place elsewhere
    exact same_of_effect carriedOut elsewhere
  · -- Obeying a word is carrying out what it spells.
    intro word before after obeyed
    exact ok_of_obey obeyed
  · intro first second
    constructor
    · -- Hardware agrees with itself at all places.
      rintro rfl place
      cases place <;> rfl
    · exact Hardware.eq_of_same

/-- Storing the first three registers at address zero leaves the byte behind them and the flag
register alone. -/
theorem effect_keeps_places_outside_footprint_of_store :
    ∃ after, (obey 0xF255).run (Hardware.powerOn (Random.ofSeed 0)) = .ok () after ∧
      (Place.byte 3).Same (Hardware.powerOn (Random.ofSeed 0)) after ∧
      (Place.register Register.flag).Same (Hardware.powerOn (Random.ofSeed 0)) after := by
  -- Running the word shows that it is obeyed, and the theorem tells what it has left alone.
  obtain ⟨keeps, words, -⟩ := effect_keeps_places_outside_footprint
  have obeyed : (obey 0xF255).run (Hardware.powerOn (Random.ofSeed 0)) = .ok () _ := rfl
  obtain ⟨operation, spelt, carriedOut⟩ := words _ _ _ obeyed
  -- Only one instruction is spelt by the word.
  have store : operation = store 2 := by
    have read := (decode_eq_ok_iff 0xF255 operation).mpr spelt
    cases read
    rfl
  subst store
  exact ⟨_, obeyed, keeps _ _ _ carriedOut _ (by decide), keeps _ _ _ carriedOut _ (by decide)⟩

end Operation

end ChipEight
