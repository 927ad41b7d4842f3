import ChipEight.Proofs.Machine.Course
import ChipEight.Proofs.Operation.Patch

/-! Memory against the image that was loaded and the stores that a run has carried out since. -/

namespace ChipEight

namespace Machine

/-- The bytes of the image with which a turn starts a program afresh, if it does. A reset has none. -/
def Turn.image? (turn : Turn) : Option (List UInt8) :=
  match turn.act with
  | .restart => some []
  | .load (.ok rom) => some rom.bytes
  | _ => none

/-- What a turn lays over memory, if the instruction that it carries out stores anything. -/
def Turn.patch? (turn : Turn) : Option Patch :=
  turn.executed?.bind fun operation => operation.patch? turn.found.hardware

/-- The image of the last turn that started a program afresh. There is none before the first. -/
def lastImage (turns : List Turn) : List UInt8 :=
  (turns.filterMap Turn.image?).getLast?.getD []

/-- What several turns lay over memory, the earliest first. -/
def laid (turns : List Turn) : List Patch :=
  turns.flatMap fun turn => turn.patch?.toList

/-- The byte that memory holds at an address when the program of an image starts. -/
-- The image lies over the font where both would reach, and zeros are everywhere else.
def loadedByte (image : List UInt8) (address : Nat) : UInt8 :=
  if 0x200 ≤ address then image[address - 0x200]?.getD 0
  else if 0x50 ≤ address ∧ address < 0xA0 then Font.bytes[address - 0x50]?.getD 0
  else 0

/-- The byte at an address once patches have been laid over the memory of an image. -/
def patchedByte (image : List UInt8) (patches : List Patch) (address : Nat) : UInt8 :=
  (Patch.latest? patches address).getD (loadedByte image address)

/-- Exactly the turns that start a program afresh have an image to start it with. -/
theorem Turn.restarts_eq (turn : Turn) : turn.restarts = turn.image?.isSome := by
  obtain ⟨machine, act⟩ := turn
  cases act with
  -- An act restarts the program just where it brings an image, be it an empty one.
  | load image => cases image <;> rfl
  | _ => rfl

/-- The image of the last turn replaces all those before it. -/
theorem lastImage_concat_of_some {turn : Turn} {bytes : List UInt8} (turns : List Turn)
    (image : turn.image? = some bytes) : lastImage (turns ++ [turn]) = bytes := by
  -- Among the images the one of the last turn comes last.
  simp [lastImage, List.filterMap_append, image]

/-- A turn without an image leaves the last one to those before it. -/
theorem lastImage_concat_of_none {turn : Turn} (turns : List Turn) (none : turn.image? = none) :
    lastImage (turns ++ [turn]) = lastImage turns := by
  -- A turn without an image is passed over when the images are picked out.
  simp [lastImage, List.filterMap_append, none]

/-- The patch of the last turn comes after all those before it. -/
theorem laid_concat (turns : List Turn) (turn : Turn) :
    laid (turns ++ [turn]) = laid turns ++ turn.patch?.toList := by
  simp [laid]

/-- A turn that starts a program afresh leaves nothing but its image in memory. -/
theorem memory_left_of_some {turn : Turn} {bytes : List UInt8}
    (image : turn.image? = some bytes) :
    turn.left.hardware.memory = Memory.powerOn.overlay programStart bytes := by
  obtain ⟨machine, act⟩ := turn
  cases act with
  | restart =>
    -- A reset is the same as loading no bytes at all.
    cases image
    rfl
  | load found =>
    cases found with
    | error error => cases image
    | ok rom =>
      cases image
      -- The reset is part of the load, so that the image is laid over the memory of power-on.
      rw [Turn.left, perform_load_ok]
  | cycle | tick | keys _ | screen _ => cases image

/-- A turn of a program that goes on lays its patch over memory and changes nothing else there. -/
theorem memory_left_of_none {turn : Turn} (none : turn.image? = none) :
    turn.left.hardware.memory = turn.patch?.toList.foldl Patch.lay turn.found.hardware.memory := by
  obtain ⟨machine, act⟩ := turn
  -- Only cycles that carry out an instruction lay anything over memory.
  cases act with
  | cycle =>
    show machine.step.1.hardware.memory = _
    rcases machine.executed?_cycle with ⟨operation, after, executed, -, carriedOut, result⟩ |
      ⟨idle, unchanged⟩
    · -- The fetch touches neither the registers nor the index nor memory.
      rw [result, Operation.memory_of_effect carriedOut, Turn.patch?, executed]
      cases operation <;> rfl
    · -- Without an instruction that was carried out there is no patch, and only the counter
      -- differs.
      rw [unchanged, Turn.patch?, idle]
      rfl
  | load image =>
    cases image with
    | error error => rfl
    | ok rom => cases none
  | restart => cases none
  | tick | keys _ | screen _ => rfl

/-- Memory is that of an image over which patches have been laid. -/
def Remembers (machine : Machine) (image : List UInt8) (patches : List Patch) : Prop :=
  machine.hardware.memory =
    patches.foldl Patch.lay (Memory.powerOn.overlay programStart image)

/-- At every point of a run that began with the memory of power-on, memory is that of the last image
with the patches of the turns since then laid over it. -/
theorem Remembers.performAll {machine : Machine} (fresh : machine.hardware.memory = Memory.powerOn)
    (acts : List Act) :
    (machine.performAll acts).1.Remembers (lastImage (machine.turns acts))
      (laid (sinceRestart (machine.turns acts))) := by
  -- The last turn either starts afresh with its image or adds its patch to those before it.
  refine performAll_of_turn
    (fun reached past => reached.Remembers (lastImage past) (laid (sinceRestart past)))
    fresh ?_ acts
  intro past turn remembered
  cases image : turn.image? with
  -- A turn with an image restarts the program, so no store before it counts any longer.
  | some bytes =>
    have restarts : turn.restarts = true := by rw [turn.restarts_eq, image]; rfl
    rw [sinceRestart_concat_of_restarts _ restarts, lastImage_concat_of_some _ image]
    exact memory_left_of_some image
  -- A turn without an image adds its patch to those since the last restart.
  | none =>
    have goesOn : turn.restarts = false := by rw [turn.restarts_eq, image]; rfl
    have found : turn.found.hardware.memory =
      (laid (sinceRestart past)).foldl Patch.lay
        (Memory.powerOn.overlay programStart (lastImage past)) := remembered
    rw [sinceRestart_concat_of_goesOn _ goesOn, lastImage_concat_of_none _ image, laid_concat,
      Remembers, List.foldl_append, memory_left_of_none image, found]

variable {machine : Machine} {image : List UInt8} {patches : List Patch}

/-- Every address shows the byte of the latest patch that reaches it, or else of the image. -/
theorem Remembers.byteAt (remembered : machine.Remembers image patches) {address : Nat}
    (within : address < 4096) :
    machine.hardware.memory.byteAt address = patchedByte image patches address := by
  have memory : machine.hardware.memory =
    patches.foldl Patch.lay (Memory.powerOn.overlay programStart image) := remembered
  -- The latest patch that reaches the address decides, and below all of them lies the image.
  rw [memory, Patch.byteAt_foldl_lay _ _ within, Memory.byteAt_overlay_powerOn _ within]
  rfl

/-- A range of memory shows at each of its addresses the latest byte. -/
theorem Remembers.slice (remembered : machine.Remembers image patches) (start length : Nat)
    (inside : start + length ≤ 4096) :
    machine.hardware.memory.slice start length =
      (List.range length).map fun offset => patchedByte image patches (start + offset) := by
  -- Every address of the range lies in memory, so the latest bytes are known one by one.
  refine List.map_congr_left fun offset listed => ?_
  have early := List.mem_range.mp listed
  exact remembered.byteAt (by omega)

/-- With room for a word, the word that is fetched is made of the latest bytes. -/
theorem Remembers.fetched (remembered : machine.Remembers image patches)
    (room : machine.hardware.pc.toNat < 0x0FFF) :
    ∃ word, Hardware.fetch.run machine.hardware = .ok word machine.hardware.passed ∧
      word.toNat = 256 * (patchedByte image patches machine.hardware.pc.toNat).toNat +
        (patchedByte image patches (machine.hardware.pc.toNat + 1)).toNat := by
  -- The fetch takes the bytes at the counter and behind it, which both lie in memory.
  refine ⟨_, Hardware.run_fetch_of_lt room, ?_⟩
  rw [Hardware.wordAhead, Memory.toNat_wordAt, remembered.byteAt (by omega),
    remembered.byteAt (by omega)]

/-- The screen with the sprite at the index, and whether it has hit a lit pixel, if the sprite is
made of the latest bytes. -/
def spriteDrawn (machine : Machine) (image : List UInt8) (patches : List Patch) (x y : Register)
    (height : Nat) : Screen × Bool :=
  machine.hardware.screen.draw (machine.hardware.register x).toNat
    (machine.hardware.register y).toNat
    ((List.range height).map fun offset =>
      patchedByte image patches (machine.hardware.index.toNat + offset))

/-- A sprite that is drawn is made of the latest bytes. -/
theorem Remembers.drawn (remembered : machine.Remembers image patches) {x y : Register}
    {height : Nibble}
    (executed : Turn.executed? ⟨machine, .cycle⟩ = some (.draw x y height)) :
    machine.step.1.hardware =
      { machine.hardware.passed with
        screen := (machine.spriteDrawn image patches x y height.val).1
        registers := machine.hardware.registers.writeFlag
          (machine.spriteDrawn image patches x y height.val).2 } := by
  -- The fetch has moved nothing but the counter by the time the sprite is read.
  obtain ⟨-, -, carriedOut⟩ := effect_of_executed? executed
  obtain ⟨screen, collided, inside, drawn, left⟩ := Operation.ok_of_draw carriedOut
  -- The bytes at the index are the latest ones, since the sprite has been read from memory.
  have sprite : machine.spriteDrawn image patches x y height.val = (screen, collided) := by
    have bytes := remembered.slice machine.hardware.index.toNat height.val inside
    rw [spriteDrawn, ← bytes]
    exact drawn
  rw [sprite, left]
  rfl

/-- What a turn puts into memory. -/
inductive Turn.Puts (turn : Turn) : Option Patch → Prop
  /-- A turn that carries out no instruction puts nothing there. -/
  | idle (nothing : turn.executed? = none) : Puts turn none
  /-- Three decimal digits make up the byte in a register and go to the index. -/
  | digits (x : Register) (executed : turn.executed? = some (.digits x))
    (hundreds tens units : UInt8) (decimal : hundreds ≤ 9 ∧ tens ≤ 9 ∧ units ≤ 9)
    (value : 100 * hundreds.toNat + 10 * tens.toNat + units.toNat =
      (turn.found.hardware.register x).toNat)
    (inside : turn.found.hardware.index.toNat + 3 ≤ 4096) :
    Puts turn (some ⟨turn.found.hardware.index.toNat, [hundreds, tens, units]⟩)
  /-- The bytes of the registers up to the last one go to the index. -/
  | store (last : Register) (executed : turn.executed? = some (.store last))
    (bytes : List UInt8) (length : bytes.length = last.val + 1)
    (contents : ∀ number ≤ last,
      bytes[number.val]? = some (turn.found.hardware.register number))
    (inside : turn.found.hardware.index.toNat + (last.val + 1) ≤ 4096) :
    Puts turn (some ⟨turn.found.hardware.index.toNat, bytes⟩)
  /-- Any other instruction puts nothing there. -/
  | other (operation : Operation) (executed : turn.executed? = some operation)
    (neither : ∀ x, operation ≠ .digits x ∧ operation ≠ .store x) : Puts turn none

/-- The patch of a turn is what it puts into memory. -/
theorem Turn.puts_patch? (turn : Turn) : turn.Puts turn.patch? := by
  -- A turn puts something into memory only by an instruction that it carries out.
  cases executed : turn.executed? with
  | none =>
    rw [Turn.patch?, executed]
    exact .idle executed
  | some operation =>
    obtain ⟨machine, act⟩ := turn
    obtain rfl := act_of_executed? executed
    obtain ⟨-, -, carriedOut⟩ := effect_of_executed? executed
    rw [Turn.patch?, executed]
    cases operation with
    -- The digits are those of the register, and there is room for them as the effect was carried
    -- out.
    | digits x =>
      obtain ⟨inside, -⟩ := Operation.ok_of_digits carriedOut
      obtain ⟨hundreds, tens, units, digits, decimal, value⟩ :=
        Operation.decimalDigits_eq (machine.hardware.register x)
      show Turn.Puts _ (some ⟨_, Operation.decimalDigits _⟩)
      rw [digits]
      exact .digits x executed hundreds tens units decimal value inside
    -- The block has one byte for each register, and there is room for it for the same reason.
    | store last =>
      obtain ⟨inside, -⟩ := Operation.ok_of_store carriedOut
      exact .store last executed _ (Registers.length_block ..)
        (fun number early => Registers.getElem?_block _ early) inside
    | _ => exact .other _ executed (by simp)

/-- How memory is accounted for at a point of a run, given the image that was loaded last and what
has been stored since, the earliest first. -/
structure KeepsStores (machine : Machine) (image : List UInt8) (patches : List Patch) : Prop where
  /-- The stores have been laid over the memory of the image one after the other. -/
  replayed : machine.hardware.memory =
    patches.foldl Patch.lay (Memory.powerOn.overlay programStart image)
  /-- Every address shows the byte of the latest store that reaches it, or else of the image. -/
  latest : ∀ address < 4096,
    machine.hardware.memory.byteAt address = patchedByte image patches address
  /-- Where no store reaches, the byte is still the one that was loaded. -/
  untouched : ∀ address < 4096, (∀ patch ∈ patches, ¬ patch.Covers address) →
    machine.hardware.memory.byteAt address = loadedByte image address
  /-- A fetch sees the latest bytes. -/
  fetched : machine.hardware.pc.toNat < 0x0FFF →
    ∃ word, Hardware.fetch.run machine.hardware = .ok word machine.hardware.passed ∧
      word.toNat = 256 * (patchedByte image patches machine.hardware.pc.toNat).toNat +
        (patchedByte image patches (machine.hardware.pc.toNat + 1)).toNat
  /-- A sprite that is drawn next is made of the latest bytes. -/
  drawn : ∀ (x y : Register) (height : Nibble),
    Turn.executed? ⟨machine, .cycle⟩ = some (.draw x y height) →
      machine.step.1.hardware =
        { machine.hardware.passed with
          screen := (machine.spriteDrawn image patches x y height.val).1
          registers := machine.hardware.registers.writeFlag
            (machine.spriteDrawn image patches x y height.val).2 }

/-- Memory that is remembered is accounted for. -/
theorem Remembers.keepsStores (remembered : machine.Remembers image patches) :
    machine.KeepsStores image patches where
  replayed := remembered
  latest _ := remembered.byteAt
  -- No patch reaches the address, so the byte of the image is left.
  untouched address within missed := by
    rw [remembered.byteAt within, patchedByte, Patch.latest?_of_not_covers missed,
      Option.getD_none]
  fetched := remembered.fetched
  drawn _ _ _ := remembered.drawn

/--
In every run from power-on, cycle by cycle, memory is accounted for by the last image and by what the
turns since then have put into memory, which is two kinds of bytes and nothing else.

An instruction is carried out exactly if a cycle finds it and nothing stops it, a load has an image
exactly if the host is told of its success, and what a host can ask of the machine is nothing but such
runs.
-/
theorem performAll_powerOn_keepsStores (random : Random) :
    (∀ acts : List Act,
      (performAll ⟨Hardware.powerOn random, .running⟩ acts).1.KeepsStores
        (lastImage (turns ⟨Hardware.powerOn random, .running⟩ acts))
        (laid (sinceRestart (turns ⟨Hardware.powerOn random, .running⟩ acts)))) ∧
    (∀ turn : Turn, turn.Puts turn.patch?) ∧
    (∀ turn : Turn, turn.CarriesOut) ∧
    (∀ (machine : Machine) (event : Event), machine.Tells event) ∧
    ∀ events : List Event, (applyAll ⟨Hardware.powerOn random, .running⟩ events).2 =
      performAll ⟨Hardware.powerOn random, .running⟩ (events.flatMap Event.acts) := by
  refine ⟨?_, Turn.puts_patch?, Turn.carriesOut, tells, applyAll_eq_performAll _⟩
  intro acts
  -- Nothing has been loaded at power-on.
  have fresh : (Hardware.powerOn random).memory = Memory.powerOn := rfl
  have remembered := @Remembers.performAll ⟨Hardware.powerOn random, .running⟩ fresh acts
  exact remembered.keepsStores

/-- A program that stores three digits over its own beginning sees them there. -/
theorem performAll_powerOn_keepsStores_over_program :
    ∃ image, KeepsStores ((powerOn 0).performAll
      [.load (Rom.ofBytes [0xA2, 0x00, 0x60, 0x7B, 0xF0, 0x33]), .cycle, .cycle, .tick, .cycle]).1
        image [⟨0x200, [1, 2, 3]⟩] ∧
      ∃ consumed, ((powerOn 0).apply (.load image)).outcome = .load (.ok ()) consumed := by
  -- Running the program tells what it has stored, and the theorem tells what memory makes of it.
  obtain ⟨kept, -, -, told, -⟩ := performAll_powerOn_keepsStores (Random.ofSeed 0)
  have stored : laid (sinceRestart (turns (powerOn 0)
      [.load (Rom.ofBytes [0xA2, 0x00, 0x60, 0x7B, 0xF0, 0x33]), .cycle, .cycle, .tick, .cycle])) =
        [⟨0x200, [1, 2, 3]⟩] := by
    decide +kernel
  exact ⟨_, stored ▸ kept _, (told _ _).loaded.mpr ⟨_, rfl⟩⟩

end Machine

end ChipEight
