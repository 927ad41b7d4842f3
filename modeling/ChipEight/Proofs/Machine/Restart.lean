import ChipEight.Proofs.Machine.Simulation
import ChipEight.Proofs.Operation.Success

/-! After a reset or a load nothing is left of what a machine did before but the position of its
random source. -/

namespace ChipEight

/-- Two states of hardware that differ at most in the places of the call stack that do not count. -/
structure Hardware.Matches (first second : Hardware) : Prop where
  /-- All other parts are the same. -/
  others : second = { first with stack := second.stack }
  /-- The same calls are pending. -/
  calls : second.stack.toList = first.stack.toList

/-- A change that has nothing to do with the call stack keeps what matches. -/
theorem Hardware.Matches.change {first second : Hardware} (matched : first.Matches second)
    (change : Hardware → Hardware)
    (apart : ∀ (hardware : Hardware) (stack : ReturnStack),
      change { hardware with stack } = { change hardware with stack }) :
    (change first).Matches (change second) := by
  -- A stack that is in place before the change could as well be put there afterwards.
  have unmoved := congrArg Hardware.stack (apart first first.stack)
  have kept : (change first).stack = first.stack := unmoved
  have moved : change second = { change first with stack := second.stack } := by
    rw [← apart, ← matched.others]
  constructor
  · rw [moved]
  · rw [moved, kept]
    exact matched.calls

/-- Passing over a word or not makes the same difference to both. -/
theorem Hardware.matches_skipWhen {hardware : Hardware} {stack : ReturnStack}
    (calls : stack.toList = hardware.stack.toList) (condition : Bool) :
    (hardware.skipWhen condition).Matches ({ hardware with stack }.skipWhen condition) := by
  -- The counter is all that moves, if anything does.
  cases condition <;> exact ⟨rfl, calls⟩

namespace Operation

variable {operation : Operation} {first second left right : Hardware}

/-- Places that do not count are no obstacle. -/
theorem obstacle_of_matches (operation : Operation) (matched : first.Matches second) :
    operation.obstacle first = operation.obstacle second := by
  -- What counts of the call stack is how many calls are pending.
  obtain ⟨others, calls⟩ := matched
  have size : second.stack.size = first.stack.size := by
    rw [← ReturnStack.length_toList, ← ReturnStack.length_toList, calls]
  have index : second.index = first.index := by rw [others]
  cases operation <;> simp only [obstacle, size, index]

/-- What an instruction leaves behind matches if what it found does. -/
theorem matches_of_effect (matched : first.Matches second)
    (one : operation.effect.run first = .ok () left)
    (two : operation.effect.run second = .ok () right) : left.Matches right := by
  -- The second state is the first one with another stack, whose places beyond the calls are its
  -- own.
  obtain ⟨others, calls⟩ := matched
  generalize second.stack = stack at others calls
  subst others
  cases operation with
  | ret =>
    -- The same address is the last one on both stacks.
    obtain ⟨address, rest, listed, rfl⟩ := ok_of_ret one
    obtain ⟨other, remaining, found, rfl⟩ := ok_of_ret two
    have same : remaining.toList ++ [other] = rest.toList ++ [address] :=
      found.symm.trans (calls.trans listed)
    obtain ⟨entries, addresses⟩ := List.append_inj' same rfl
    cases addresses
    exact ⟨rfl, entries⟩
  | call target =>
    -- The same address is added to both stacks.
    obtain ⟨pushed, listed, rfl⟩ := ok_of_call one
    obtain ⟨other, found, rfl⟩ := ok_of_call two
    refine ⟨rfl, found.trans ?_⟩
    rw [listed]
    exact congrArg (· ++ [first.pc]) calls
  -- Neither the sprite nor the screen is read from the stack.
  | draw x y height =>
    obtain ⟨screen, collided, -, drawn, rfl⟩ := ok_of_draw one
    obtain ⟨other, flag, -, found, rfl⟩ := ok_of_draw two
    cases drawn.symm.trans found
    exact ⟨rfl, calls⟩
  -- What goes to memory and to registers has nothing to do with the stack either.
  | digits x =>
    obtain ⟨-, rfl⟩ := ok_of_digits one
    obtain ⟨-, rfl⟩ := ok_of_digits two
    exact ⟨rfl, calls⟩
  | store last =>
    obtain ⟨-, rfl⟩ := ok_of_store one
    obtain ⟨-, rfl⟩ := ok_of_store two
    exact ⟨rfl, calls⟩
  | load last =>
    obtain ⟨-, rfl⟩ := ok_of_load one
    obtain ⟨-, rfl⟩ := ok_of_load two
    exact ⟨rfl, calls⟩
  | skipIfByte _ _ | skipUnlessByte _ _ | skipIfEqual _ _ | skipUnlessEqual _ _ | skipIfDown _
  | skipUnlessDown _ =>
    rw [Attempt.ok_of_modify one, Attempt.ok_of_modify two]
    exact Hardware.matches_skipWhen calls _
  -- The keys decide whether the wait goes on, and they are no part of the stack.
  | awaitKey x =>
    rw [Attempt.ok_of_modify one, Attempt.ok_of_modify two]
    dsimp only
    cases first.keypad.first? <;> exact ⟨rfl, calls⟩
  -- Every other instruction works on parts that both have in common.
  | _ =>
    rw [Attempt.ok_of_modify one, Attempt.ok_of_modify two]
    exact ⟨rfl, calls⟩

end Operation

namespace Hardware

/-- Two states with the random source at one position match once both have been reset. -/
theorem matches_reset {first second : Hardware} (random : first.random = second.random) :
    first.reset.Matches second.reset := by
  -- A reset keeps the places of the call stack, but none of them counts any more.
  refine ⟨?_, ?_⟩
  · simp only [reset, powerOn, random]
  · exact (ReturnStack.toList_clear _).trans (ReturnStack.toList_clear _).symm

/-- No cycle and no request can tell apart what matches. -/
theorem simulation_matches : Simulation Matches where
  -- What a cycle or a request looks at is found among the parts that are the same.
  counter matched := by rw [matched.others]
  memory matched := by rw [matched.others]
  passed matched := matched.change Hardware.passed fun _ _ => rfl
  effect matched operation :=
    Operation.endAlike_effect matched (operation.obstacle_of_matches matched)
      fun _ _ one two => Operation.matches_of_effect matched one two
  tick matched := matched.change Hardware.tick fun _ _ => rfl
  keys matched event :=
    matched.change (fun hardware => { hardware with keypad := hardware.keypad.apply event })
      fun _ _ => rfl
  screen matched event :=
    matched.change (fun hardware => { hardware with screen := hardware.screen.apply event })
      fun _ _ => rfl
  -- Only the random source comes through a reset, and it is one of those parts.
  reset matched := matches_reset (by rw [matched.others])
  given matched memory :=
    matched.change (fun hardware => { hardware with memory }) fun _ _ => rfl

end Hardware

namespace Machine

/-- What a host can see of a machine, which is everything but the position of the random source and
the places of the call stack that do not count. -/
structure Sight where
  /-- The address of the next word to fetch. -/
  pc : UInt16
  /-- The address that data instructions work on. -/
  index : UInt16
  /-- The sixteen registers. -/
  registers : Registers
  /-- All bytes of memory. -/
  memory : Memory
  /-- The pending return addresses, the oldest call first. -/
  calls : List UInt16
  /-- The timer that programs read. -/
  delay : UInt8
  /-- The timer that sounds while it runs. -/
  sound : UInt8
  /-- The keys as the host set them. -/
  keypad : Keypad
  /-- The pixels and the redraw flag. -/
  screen : Screen
  /-- Whether the machine goes on, or the fault that stopped it. -/
  run : Run
deriving DecidableEq

/-- What a host can see of a machine. -/
def sight (machine : Machine) : Sight where
  pc := machine.hardware.pc
  index := machine.hardware.index
  registers := machine.hardware.registers
  memory := machine.hardware.memory
  calls := machine.hardware.stack.toList
  delay := machine.hardware.delay
  sound := machine.hardware.sound
  keypad := machine.hardware.keypad
  screen := machine.hardware.screen
  run := machine.run

/-- What a host learns from a request. -/
structure Record where
  /-- What the host is told. -/
  outcome : Outcome
  /-- What can be seen of the machine afterwards. -/
  sight : Sight
  /-- What the journal gained. -/
  journal : Journal

/-- What a host learns from a reply. -/
def Reply.record (reply : Reply) : Record :=
  ⟨reply.outcome, reply.machine.sight, reply.journal⟩

/-- What a host learns from several requests, one after the other. -/
def records (machine : Machine) (events : List Event) : List Record :=
  (machine.replies events).map Reply.record

/-- A host learns the same from replies whose machines have hardware that matches. -/
theorem Reply.Alike.record {first second : Reply} (alike : first.Alike Hardware.Matches second) :
    first.record = second.record := by
  obtain ⟨outcome, ⟨⟨others, calls⟩, run⟩, journal⟩ := alike
  -- All that is seen of the call stack is the list of pending calls.
  have sight : first.machine.sight = second.machine.sight := by
    simp only [Machine.sight, calls, run]
    rw [others]
  simp only [Reply.record, outcome, sight, journal]

variable {first second : Machine}

/-- A host learns the same from all requests that come after one with replies whose machines have
hardware that matches. -/
theorem records_cons_of_alike {event : Event}
    (alike : (first.apply event).Alike Hardware.Matches (second.apply event))
    (events : List Event) : first.records (event :: events) = second.records (event :: events) := by
  -- Behind the first request the machines cannot be told apart.
  have replied : List.Forall₂ (Reply.Alike Hardware.Matches)
      (first.replies (event :: events)) (second.replies (event :: events)) :=
    .cons alike (alike.machine.replies Hardware.simulation_matches events)
  -- Pair by pair, the records of the replies are the same.
  unfold records
  generalize first.replies (event :: events) = one at replied ⊢
  generalize second.replies (event :: events) = two at replied ⊢
  induction replied with
  | nil => rfl
  | cons reply _ ih => rw [List.map_cons, List.map_cons, reply.record, ih]

/-- Once an image has been loaded or the machine has been reset, nothing that was before makes a
difference to what a host can ever learn, but for the position of the random source. -/
theorem load_and_reset_erase_history (first second : Machine)
    (random : first.hardware.random = second.hardware.random) :
    (∀ (rom : Rom) (events : List Event),
      first.records (.load rom.bytes :: events) = second.records (.load rom.bytes :: events)) ∧
    ∀ events : List Event,
      first.records (.reset :: events) = second.records (.reset :: events) := by
  have matched := Hardware.matches_reset random
  constructor
  · intro rom events
    -- The image goes into machines that have just been reset.
    refine records_cons_of_alike ?_ events
    simp only [apply, load, Rom.ofBytes_of_le rom.fits, loadResult, insert_eq]
    exact ⟨rfl, ⟨Hardware.simulation_matches.given matched _, rfl⟩, rfl⟩
  · -- A reset alone leaves hardware that matches, without an image on top of it.
    intro events
    refine records_cons_of_alike ?_ events
    simp only [apply, reset]
    exact ⟨rfl, ⟨matched, rfl⟩, rfl⟩

/-- A machine that calls without end has come to its halt, with a key down. -/
def overflowed : Machine :=
  ((powerOn 0).applyAll [.load [0x22, 0x00], .frame 17, .keys (.press (Nibble.ofNat 3))]).2.1

/-- A return without a call ends in the same way on a fresh machine and on one whose call stack was
full. -/
theorem load_and_reset_erase_history_of_overflow :
    overflowed.run = .halted (.tooManyCalls 16) ∧ overflowed.hardware.stack.isFull = true ∧
      (powerOn 0).records [.load [0x00, 0xEE], .step] =
        overflowed.records [.load [0x00, 0xEE], .step] ∧
      (powerOn 0).records [.reset, .frame 2, .tick] =
        overflowed.records [.reset, .frame 2, .tick] := by
  -- Neither a call nor a key draws a random byte.
  have ⟨random, stopped, full⟩ : (powerOn 0).hardware.random = overflowed.hardware.random ∧
      overflowed.run = .halted (.tooManyCalls 16) ∧
      overflowed.hardware.stack.isFull = true := by decide +kernel
  obtain ⟨load, reset⟩ := load_and_reset_erase_history (powerOn 0) overflowed random
  exact ⟨stopped, full, load ⟨[0x00, 0xEE], by decide⟩ [.step], reset [.frame 2, .tick]⟩

end Machine

end ChipEight
