import Mathlib.Data.Bool.Basic
import ChipEight.Proofs.Machine.Await
import ChipEight.Proofs.Machine.Course
import ChipEight.Proofs.Operation.Footprint

/-! The keys are down as the host has last had it, whatever a program does in the meantime. -/

namespace ChipEight

namespace Machine

/-- Whether an act settles that a key is down or up. -/
def Act.settles (key : Key) : Act → Bool
  | .keys (.press other) | .keys (.release other) => other == key
  | .keys .liftAll | .restart | .load (.ok _) => true
  | .cycle | .tick | .screen _ | .load (.error _) => false

/-- Whether an act is the press of a key. -/
def Act.presses : Act → Bool
  | .keys (.press _) => true
  | _ => false

/-- The last of several acts that settles whether a key is down. -/
def lastSettling? (key : Key) (acts : List Act) : Option Act :=
  (acts.filter (Act.settles key)).getLast?

/-- Whether a key is held after several acts. It is if it has been pressed last, or if it was down at
the start and nothing has settled otherwise. -/
def Held (machine : Machine) (acts : List Act) (key : Key) : Prop :=
  lastSettling? key acts = some (.keys (.press key)) ∨
    lastSettling? key acts = none ∧ machine.hardware.keypad.isDown key = true

/-- An act that settles whether a key is down is the press of this key or of none. -/
theorem Act.presses_iff {act : Act} {key : Key} (settles : act.settles key = true) :
    act.presses = true ↔ act = .keys (.press key) := by
  cases act with
  | keys event =>
    -- A press settles nothing about a key but its own, which is why it is the press of this one.
    cases event with
    | press other =>
      obtain rfl : other = key := beq_iff_eq.mp settles
      exact ⟨fun _ => rfl, fun _ => rfl⟩
    | release other => simp [presses]
    | liftAll => simp [presses]
  | _ => simp [presses]

/-- No instruction that is carried out changes the keys, and neither does a cycle that halts the
machine. -/
theorem keypad_step (machine : Machine) :
    machine.step.1.hardware.keypad = machine.hardware.keypad := by
  rcases machine.executed?_cycle with ⟨operation, after, -, -, carriedOut, result⟩ |
    ⟨-, unchanged⟩
  · -- Registers, bytes and other parts are all that is ever listed as changed.
    have outside : Place.keypad ∉ operation.footprint machine.hardware.passed := by
      cases operation <;> simp [Operation.footprint, Place.bytes]
    rw [result]
    exact (Operation.same_of_effect carriedOut outside).symm
  · -- A cycle that carries nothing out changes the counter alone.
    rw [unchanged]

/-- An act that settles whether a key is down leaves it down if it is a press, and any other act
leaves the key as it was. -/
theorem isDown_perform (machine : Machine) (act : Act) (key : Key) :
    (machine.perform act).1.hardware.keypad.isDown key =
      if act.settles key then act.presses else machine.hardware.keypad.isDown key := by
  -- Cycles leave all keys alone, and the other acts are gone through one by one.
  cases act with
  | cycle => exact congrArg (Keypad.isDown · key) machine.keypad_step
  | keys event =>
    cases event with
    | press other =>
      refine (Keypad.isDown_press ..).trans ?_
      -- The key of the press is down, and of any other nothing is settled.
      by_cases same : other = key <;> simp [Act.settles, Act.presses, same]
    | release other =>
      refine (Keypad.isDown_release ..).trans ?_
      -- The key of the release is up, and of any other nothing is settled.
      by_cases same : other = key <;> simp [Act.settles, Act.presses, same]
    | liftAll => exact Keypad.isDown_released key
  | restart => exact Keypad.isDown_released key
  | load image =>
    cases image with
    | error error => rfl
    | ok rom =>
      -- The reset that comes before the image has released all keys.
      rw [perform_load_ok]
      exact Keypad.isDown_released key
  | tick | screen _ => rfl

/-- The last of all acts settles whether a key is down, or it leaves that to the acts before it. -/
theorem lastSettling?_concat (key : Key) (acts : List Act) (act : Act) :
    lastSettling? key (acts ++ [act]) =
      if act.settles key then some act else lastSettling? key acts := by
  -- An act that settles nothing is not even listed.
  rw [lastSettling?, List.filter_append]
  cases settles : act.settles key <;> simp [settles, lastSettling?]

/-- After several acts the keys that are held are down, and no others are. -/
theorem isDown_performAll (machine : Machine) (acts : List Act) (key : Key) :
    (machine.performAll acts).1.hardware.keypad.isDown key = true ↔ machine.Held acts key := by
  -- The last act settles it by itself, or what the acts before it have left is still there.
  induction acts using List.reverseRecOn with
  | nil => simp [Held, lastSettling?, performAll]
  | append_singleton acts act ih =>
    rw [performAll_concat, isDown_perform, Held, lastSettling?_concat]
    cases settles : act.settles key with
    -- A press settles that its own key is down, and no other act that settles leaves a key down.
    | true => simp [Act.presses_iff settles]
    | false => exact ih

end Machine

namespace Hardware

/-- How a step ends that passes over the word behind its own on a condition, and does nothing else. -/
structure SkipsIf (before : Hardware) (condition : Prop) (after : Machine) : Prop where
  /-- It passes over the word if the condition holds. -/
  past : condition → after = ⟨{ before with pc := before.pc + 4 }, .running⟩
  /-- It leads to the word otherwise. -/
  onto : ¬ condition → after = ⟨{ before with pc := before.pc + 2 }, .running⟩

/-- What a step makes of the keys that are held, if its instruction looks at them. -/
structure ReadsKeys (before : Hardware) (held : Key → Prop) (after : Machine) : Prop where
  /-- Words `Ex9E` ask for the key that is numbered by a register. -/
  skipIfDown : ∀ x, before.instruction? = some (.skipIfDown x) →
    before.SkipsIf (held (Nibble.ofByte (before.register x))) after
  /-- Words `ExA1` ask for the same, and skip if it is up. -/
  skipUnlessDown : ∀ x, before.instruction? = some (.skipUnlessDown x) →
    before.SkipsIf (¬ held (Nibble.ofByte (before.register x))) after
  /-- Words `Fx0A` take the number of the lowest key that is held, and leave the key as it is. -/
  takesKey : ∀ x key, before.instruction? = some (.awaitKey x) → held key →
    (∀ other < key, ¬ held other) →
      after = ⟨before.passed.setRegister x (UInt8.ofNat key.val), .running⟩
  /-- They leave all as it is if no key is held. -/
  awaitsKey : ∀ x, before.instruction? = some (.awaitKey x) → (∀ key, ¬ held key) →
    after = ⟨before, .running⟩

variable {hardware : Hardware}

/-- An instruction that does no more than to pass over the next word on a condition makes a step that
does so. -/
theorem skipsIf_step {operation : Operation} {passes : Bool} {condition : Prop}
    (found : hardware.instruction? = some operation)
    (carriedOut : operation.effect.run hardware.passed = .ok () (hardware.passed.skipWhen passes))
    (decides : passes = true ↔ condition) :
    hardware.SkipsIf condition (Machine.step ⟨hardware, .running⟩).1 := by
  -- A whole word was found, so the step is the effect behind the fetch.
  obtain ⟨room, read⟩ := (hardware.instruction?_eq_some_iff operation).mp found
  have outcome : (Machine.step ⟨hardware, .running⟩).1 =
      ⟨hardware.passed.skipWhen passes, .running⟩ :=
    congrArg Prod.fst (Machine.advance_of_carriedOut room read carriedOut)
  rw [outcome]
  constructor
  · intro holds
    -- The word of the instruction has been passed before.
    have twice : hardware.pc + 2 + 2 = hardware.pc + 4 := UInt16.add_assoc ..
    simp only [decides.mpr holds, skipWhen, ite_true, passed, twice]
  · -- Where the condition fails the counter stays behind the word of the instruction.
    intro fails
    simp only [eq_false_of_ne_true (mt decides.mp fails), skipWhen, passed, Bool.false_eq_true,
      ite_false]

/-- Hardware that has come to the wait for a key waits for one. -/
theorem awaits_of_found {x : Register} (found : hardware.instruction? = some (.awaitKey x)) :
    hardware.Awaits x := by
  obtain ⟨room, read⟩ := (hardware.instruction?_eq_some_iff _).mp found
  exact ⟨room, ((Operation.decode_eq_ok_iff ..).mp read).symm⟩

/-- A step reads the keys that are down. -/
theorem readsKeys_step (hardware : Hardware) :
    hardware.ReadsKeys (hardware.keypad.isDown · = true)
      (Machine.step ⟨hardware, .running⟩).1 := by
  constructor
  case skipIfDown =>
    -- Skipping is all that the two instructions do, and they differ in the condition alone.
    intro x found
    exact skipsIf_step found rfl Iff.rfl
  case skipUnlessDown =>
    intro x found
    exact skipsIf_step found rfl Bool.not_iff_not
  case takesKey =>
    intro x key found pressed lowest
    -- The search for the lowest key ends at this one, and the keypad is not written.
    have first : hardware.keypad.first? = some key :=
      (hardware.keypad.first?_eq_some_iff key).mpr
        ⟨pressed, fun other below => eq_false_of_ne_true (lowest other below)⟩
    rw [Machine.step_of_awaits (awaits_of_found found), heeded, first]
  case awaitsKey =>
    intro x found none
    -- Without a key that is down the search finds none.
    have up : ∀ key, hardware.keypad.isDown key = false :=
      fun key => eq_false_of_ne_true (none key)
    rw [Machine.step_of_no_key (awaits_of_found found) up]

end Hardware

namespace Machine

/-- How the keys are accounted for at a point of a run, given which of them the host holds there. -/
structure KeepsKeys (machine : Machine) (held : Key → Prop) : Prop where
  /-- A key is down exactly if it is held. -/
  down : ∀ key, machine.hardware.keypad.isDown key = true ↔ held key
  /-- The lowest key is the lowest of those that are held. -/
  lowest : ∀ key, machine.hardware.keypad.first? = some key ↔
    held key ∧ ∀ other < key, ¬ held other
  /-- There is no lowest key exactly if none is held. -/
  none : machine.hardware.keypad.first? = .none ↔ ∀ key, ¬ held key
  /-- Whatever comes next, a key stays as it is unless the host settles otherwise. -/
  kept : ∀ (act : Act) (key : Key), act.settles key = false →
    (machine.perform act).1.hardware.keypad.isDown key = machine.hardware.keypad.isDown key
  /-- Every instruction that looks at the keys sees those that are held. -/
  read : machine.run = .running → machine.hardware.ReadsKeys held machine.step.1

/-- Keys that are down as they are held are accounted for. -/
theorem keepsKeys_of_down {machine : Machine} {held : Key → Prop}
    (down : ∀ key, machine.hardware.keypad.isDown key = true ↔ held key) :
    machine.KeepsKeys held := by
  -- The two are the same predicate, so that only the keys that are down are spoken of from here on.
  obtain rfl : (machine.hardware.keypad.isDown · = true) = held :=
    funext fun key => propext (down key)
  constructor
  case down => exact down
  case lowest =>
    intro key
    simp only [Keypad.first?_eq_some_iff, Bool.not_eq_true]
  case none => simp only [Keypad.first?_eq_none_iff, Bool.not_eq_true]
  -- Whatever settles nothing leaves the keys of this machine alone.
  case kept =>
    intro act key idle
    rw [isDown_perform, idle]
    rfl
  case read =>
    -- The step of a running machine reads its keys, which are those that are held.
    intro running
    obtain ⟨hardware, run⟩ := machine
    subst running
    exact hardware.readsKeys_step

/--
The keys reflect nothing but what the host has done to them.

At every point of a run, cycle by cycle, exactly those keys are down and seen by the program that are
held. From power-on these are the keys for which the last act that settles it is their press. What a
host can ask of a machine is nothing but such runs, and it is told that a load has succeeded exactly
if there is an image to be loaded among the acts.
-/
theorem keys_reflect_only_the_host :
    (∀ (machine : Machine) (acts : List Act),
      (machine.performAll acts).1.KeepsKeys (machine.Held acts)) ∧
    (∀ (random : Random) (acts : List Act) (key : Key),
      Held ⟨Hardware.powerOn random, .running⟩ acts key ↔
        lastSettling? key acts = some (.keys (.press key))) ∧
    (∀ (machine : Machine) (events : List Event),
      (machine.applyAll events).2 = machine.performAll (events.flatMap Event.acts)) ∧
    ∀ (machine : Machine) (event : Event),
      (∃ consumed, (machine.apply event).outcome = .load (.ok ()) consumed) ↔
        ∃ rom, event.acts = [.load (.ok rom)] := by
  refine ⟨?_, ?_, applyAll_eq_performAll, fun machine event => (machine.tells event).loaded⟩
  · -- The keys after the acts are known, and everything else is told of them.
    intro machine acts
    exact keepsKeys_of_down (machine.isDown_performAll acts)
  · intro random acts key
    -- No key is down at power-on.
    have up : (Hardware.powerOn random).keypad.isDown key = false := Keypad.isDown_released key
    simp [Held, up]

/-- The wait for a key takes one that was pressed behind the load, and neither this nor a load that
fails releases it. -/
example :
    ((powerOn 0).performAll
      [.keys (.press 3), .load (Rom.ofBytes [0xF0, 0x0A]), .keys (.press 7), .keys (.press 5),
        .keys (.release 5), .cycle, .load (.error (.tooLarge 9000))]).1.hardware.keypad.first? =
      some 7 := by
  decide +kernel

end Machine

end ChipEight
