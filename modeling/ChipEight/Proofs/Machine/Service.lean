import ChipEight.Proofs.Machine.Course
import ChipEight.Proofs.Machine.Simulation
import ChipEight.Proofs.Operation.Success

/-! What a host does to timers and keys may be done before or behind any instructions that have
nothing to do with it. -/

namespace ChipEight

/-- What a host does to timers and keys while a program runs. -/
structure Service where
  /-- What becomes of the timer that programs read. -/
  delay : UInt8 → UInt8
  /-- What becomes of the timer that sounds. -/
  sound : UInt8 → UInt8
  /-- What becomes of the keys. -/
  keypad : Keypad → Keypad

/-- Both timers tick. -/
def Service.tick : Service where
  delay := tickTimer
  sound := tickTimer
  keypad := id

/-- The keys change. -/
def Service.keys (event : Keypad.Event) : Service where
  delay := id
  sound := id
  keypad := fun keypad => keypad.apply event

namespace Operation

/-- Whether an instruction reads or sets a timer. -/
def usesTimers : Operation → Bool
  | readDelay _ | setDelay _ | setSound _ => true
  | _ => false

/-- Whether an instruction looks at the keys. -/
def usesKeys : Operation → Bool
  | skipIfDown _ | skipUnlessDown _ | awaitKey _ => true
  | _ => false

end Operation

/-- A service leaves alone what an instruction has to do with. -/
structure Service.Spares (service : Service) (operation : Operation) : Prop where
  /-- The timers are left alone if the instruction uses them. -/
  timers : operation.usesTimers = true → service.delay = id ∧ service.sound = id
  /-- The keys are left alone if the instruction uses them. -/
  keys : operation.usesKeys = true → service.keypad = id

namespace Hardware

/-- The hardware once its host has seen to timers and keys. -/
def serve (hardware : Hardware) (service : Service) : Hardware :=
  { hardware with
    delay := service.delay hardware.delay
    sound := service.sound hardware.sound
    keypad := service.keypad hardware.keypad }

/-- Passing over a word or not has nothing to do with timers and keys. -/
theorem skipWhen_serve (hardware : Hardware) (service : Service) (condition : Bool) :
    (hardware.serve service).skipWhen condition = (hardware.skipWhen condition).serve service := by
  -- The counter is no part of a service.
  cases condition <;> rfl

end Hardware

namespace Operation

variable {operation : Operation} {service : Service} {before left right : Hardware}

/-- Neither timers nor keys are an obstacle. -/
theorem obstacle_serve (operation : Operation) (hardware : Hardware) (service : Service) :
    operation.obstacle (hardware.serve service) = operation.obstacle hardware := by
  -- Only the call stack and the index are looked at.
  cases operation <;> rfl

/-- An instruction that is spared leaves the same behind whether its host comes first or last. -/
theorem serve_of_effect (spared : service.Spares operation)
    (one : operation.effect.run before = .ok () left)
    (two : operation.effect.run (before.serve service) = .ok () right) :
    right = left.serve service := by
  -- Each instruction either has nothing to do with the parts of a service or finds them left alone.
  cases operation with
  | ret =>
    -- The same address is taken off the same stack.
    obtain ⟨address, stack, popped, rfl⟩ := popped_of_ret one
    obtain ⟨other, rest, found, rfl⟩ := popped_of_ret two
    cases popped.symm.trans found
    rfl
  | call target =>
    -- The same address is added to the same stack.
    obtain ⟨stack, pushed, rfl⟩ := pushed_of_call one
    obtain ⟨rest, found, rfl⟩ := pushed_of_call two
    cases pushed.symm.trans found
    rfl
  -- The sprite is read from memory and drawn on the screen, and neither is part of a service.
  | draw x y height =>
    obtain ⟨screen, collided, -, drawn, rfl⟩ := ok_of_draw one
    obtain ⟨other, flag, -, found, rfl⟩ := ok_of_draw two
    cases drawn.symm.trans found
    rfl
  -- Digits, stores and loads work on memory and registers only.
  | digits x =>
    obtain ⟨-, rfl⟩ := ok_of_digits one
    obtain ⟨-, rfl⟩ := ok_of_digits two
    rfl
  | store last =>
    obtain ⟨-, rfl⟩ := ok_of_store one
    obtain ⟨-, rfl⟩ := ok_of_store two
    rfl
  | load last =>
    obtain ⟨-, rfl⟩ := ok_of_load one
    obtain ⟨-, rfl⟩ := ok_of_load two
    rfl
  | skipIfByte _ _ | skipUnlessByte _ _ | skipIfEqual _ _ | skipUnlessEqual _ _ =>
    rw [Attempt.ok_of_modify one, Attempt.ok_of_modify two]
    exact Hardware.skipWhen_serve _ _ _
  | skipIfDown x | skipUnlessDown x =>
    -- The keys that are asked for are the ones before.
    have keypad : (before.serve service).keypad = before.keypad := congrFun (spared.keys rfl) _
    rw [Attempt.ok_of_modify one, Attempt.ok_of_modify two]
    simp only [keypad]
    exact Hardware.skipWhen_serve _ _ _
  -- The wait takes the lowest key, which is the one before.
  | awaitKey x =>
    have keypad : (before.serve service).keypad = before.keypad := congrFun (spared.keys rfl) _
    have lowest := congrArg Keypad.first? keypad
    rw [Attempt.ok_of_modify one, Attempt.ok_of_modify two]
    simp only [lowest]
    cases before.keypad.first? <;> rfl
  -- The timer is read as it was.
  | readDelay x =>
    have delay : (before.serve service).delay = before.delay :=
      congrFun (spared.timers rfl).1 _
    rw [Attempt.ok_of_modify one, Attempt.ok_of_modify two]
    simp only [delay]
    rfl
  | setDelay x | setSound x =>
    -- What is set takes the place of what the host has left.
    obtain ⟨delay, sound⟩ := spared.timers rfl
    rw [Attempt.ok_of_modify one, Attempt.ok_of_modify two]
    simp only [Hardware.serve, delay, sound]
    rfl
  -- No other instruction has anything to do with timers or keys.
  | _ =>
    rw [Attempt.ok_of_modify one, Attempt.ok_of_modify two]
    rfl

end Operation

namespace Machine

/-- The machine once its host has seen to timers and keys. -/
def serve (machine : Machine) (service : Service) : Machine :=
  { machine with hardware := machine.hardware.serve service }

variable {service : Service}

/-- Machines that differ by a service are alike in nothing else. -/
private theorem eq_serve_of_alike {first second : Machine}
    (alike : Alike (fun one other => other = one.serve service) first second) :
    second = first.serve service := by
  obtain ⟨hardware, run⟩ := second
  obtain ⟨rfl, rfl⟩ := alike
  rfl

/-- A step that carries out nothing but what is spared does the same whether the host comes before
or after it. -/
theorem step_serve {machine : Machine}
    (spared : ∀ operation, Turn.executed? ⟨machine, .cycle⟩ = some operation →
      service.Spares operation) :
    (machine.serve service).step = (machine.step.1.serve service, machine.step.2) := by
  cases run : machine.run with
  -- Both are halted and take no step.
  | halted fault =>
    have stopped : (machine.serve service).run = .halted fault := run
    rw [step_of_halted run, step_of_halted stopped]
  | running =>
    -- Both run, so that either step is a cycle from its own hardware.
    have plain : machine.step = advance machine.hardware := by simp only [step, run]
    have served : (machine.serve service).step = advance (machine.hardware.serve service) := by
      have stillRuns : (machine.serve service).run = .running := run
      simp only [step, stillRuns]
      rfl
    -- An instruction that meets an obstacle is not carried out, so it need not be spared.
    obtain ⟨alike, lines⟩ :=
      @Alike.advance_of_effect (fun one other => other = one.serve service) machine.hardware
        (machine.hardware.serve service) rfl (fun same => by rw [same]; rfl) rfl rfl
        fun room operation read =>
          operation.endAlike_effect rfl (operation.obstacle_serve _ _).symm
            fun left right one two =>
              Operation.serve_of_effect
                (spared operation (executed?_of_effect run room read one)) one two
    rw [plain, served]
    exact Prod.ext (eq_serve_of_alike alike) lines.symm

/-- A frame that carries out nothing but what is spared does the same whether the host comes before
or after it. -/
theorem frame_serve (machine : Machine) (count : Nat)
    (spared : ∀ operation ∈ machine.executed (List.replicate count .cycle),
      service.Spares operation) :
    (machine.serve service).frame count =
      ((machine.frame count).1.serve service, (machine.frame count).2) := by
  -- The host comes after the first step, and before the frame of the others.
  induction count generalizing machine with
  | zero => rfl
  | succ count ih =>
    -- The first step carries out the first of the instructions, and the others are left to the
    -- rest.
    rw [List.replicate_succ] at spared
    have first := step_serve fun operation carriedOut =>
      spared operation (mem_executed_cons.mpr (.inl carriedOut))
    have others := ih machine.step.1 fun operation listed =>
      spared operation (mem_executed_cons.mpr (.inr listed))
    rw [frame_succ, frame_succ, first]
    simp only [others]

/-- An act that does no more than a service can be moved behind the cycles that follow it as long as
these carry out nothing but what is spared. -/
theorem performAll_move {act : Act} (serves : ∀ machine : Machine,
      machine.perform act = (machine.serve service, []))
    (machine : Machine) (before after : Nat)
    (spared : ∀ operation ∈ machine.executed (List.replicate (before + after) .cycle),
      service.Spares operation) :
    machine.performAll (List.replicate before .cycle ++ act :: List.replicate after .cycle) =
      machine.performAll (List.replicate (before + after) .cycle ++ [act]) := by
  -- Only the cycles behind the act change places with it, so only they matter.
  rw [← List.replicate_append_replicate] at spared ⊢
  rw [executed_append] at spared
  have moved := frame_serve (machine.performAll (List.replicate before .cycle)).1 after
    fun operation listed => spared operation (List.mem_append_right _ listed)
  -- In front of the act both runs do the same, and behind it the cycles make up a frame.
  rw [List.append_assoc, performAll_append, performAll_append]
  simp only [performAll, performAll_append, serves, performAll_replicate_cycle] at moved ⊢
  simp [moved]

/-- The acts that meet steps with one other request on the way. -/
private theorem acts_of_steps_around {event : Event} {act : Act} (acts : event.acts = [act])
    (before after : Nat) :
    (List.replicate before Event.step ++ event ::
        List.replicate after Event.step).flatMap Event.acts =
      List.replicate before .cycle ++ act :: List.replicate after .cycle := by
  -- Each step is met by a cycle, and the request by its act.
  rw [List.flatMap_append, List.flatMap_cons, flatMap_acts_replicate_step,
    flatMap_acts_replicate_step, acts]
  rfl

/-- Asked for at any point of a run of steps that carry out nothing but what is spared, a service
does what it does behind them all. -/
theorem applyAll_move (service : Service) {event : Event} {act : Act} (acts : event.acts = [act])
    (serves : ∀ machine : Machine, machine.perform act = (machine.serve service, []))
    (machine : Machine) (before after : Nat)
    (spared : ∀ operation ∈ machine.executed (List.replicate (before + after) .cycle),
      service.Spares operation) :
    (machine.applyAll (List.replicate before .step ++ event :: List.replicate after .step)).2 =
      (machine.applyAll (List.replicate (before + after) .step ++ [event])).2 := by
  -- Behind all steps is in front of none.
  have last := acts_of_steps_around acts (before + after) 0
  rw [applyAll_eq_performAll, applyAll_eq_performAll, acts_of_steps_around acts]
  exact (performAll_move serves machine before after spared).trans
    (congrArg machine.performAll last.symm)

/-- It makes no difference to the machine nor to the journal at which point of a run of steps the
timers tick if none of the instructions that are carried out reads or sets a timer, nor at which
point the keys change if none of them looks at the keys. -/
theorem host_commutes_with_steps (machine : Machine) (before after : Nat) :
    ((∀ operation ∈ machine.executed (List.replicate (before + after) .cycle),
        operation.usesTimers = false) →
      (machine.applyAll (List.replicate before .step ++ .tick :: List.replicate after .step)).2 =
        (machine.applyAll (List.replicate (before + after) .step ++ [.tick])).2) ∧
    ((∀ operation ∈ machine.executed (List.replicate (before + after) .cycle),
        operation.usesKeys = false) →
      ∀ event : Keypad.Event,
        (machine.applyAll
            (List.replicate before .step ++ .keys event :: List.replicate after .step)).2 =
          (machine.applyAll (List.replicate (before + after) .step ++ [.keys event])).2) := by
  constructor
  · -- Instructions that do not use the timers are spared by a tick.
    intro unused
    refine applyAll_move .tick rfl (fun _ => rfl) machine before after ?_
    intro operation listed
    -- A tick leaves the keys alone.
    exact ⟨fun used => absurd (used.symm.trans (unused operation listed)) Bool.noConfusion,
      fun _ => rfl⟩
  · -- Instructions that do not look at the keys are spared by a change of them.
    intro unused event
    refine applyAll_move (.keys event) rfl (fun _ => rfl) machine before after ?_
    intro operation listed
    -- The keys leave the timers alone.
    exact ⟨fun _ => ⟨rfl, rfl⟩,
      fun used => absurd (used.symm.trans (unused operation listed)) Bool.noConfusion⟩

/-- A program that counts once and comes to an end is served alike at any point, also behind its
halt. -/
theorem host_commutes_with_steps_of_counting :
    ∃ machine : Machine, machine.hardware.delay = 7 ∧
      (machine.frame 3).1.run = .halted (.unknownWord 0) ∧
      (machine.applyAll [.step, .tick, .step, .step]).2 =
        (machine.applyAll [.step, .step, .step, .tick]).2 ∧
      (machine.applyAll [.keys (.press 5), .step, .step, .step]).2 =
        (machine.applyAll [.step, .step, .step, .keys (.press 5)]).2 := by
  let machine : Machine := { ((powerOn 0).load [0x70, 0x01]).machine with hardware.delay := 7 }
  -- Running the program tells which instructions were carried out before it came to its end.
  have ⟨halted, timers, keys⟩ :
      (machine.frame 3).1.run = .halted (.unknownWord 0) ∧
        (∀ operation ∈ machine.executed (List.replicate 3 .cycle),
          operation.usesTimers = false) ∧
        ∀ operation ∈ machine.executed (List.replicate 3 .cycle),
          operation.usesKeys = false := by
    decide +kernel
  exact ⟨machine, rfl, halted, (host_commutes_with_steps machine 1 2).1 timers,
    (host_commutes_with_steps machine 0 3).2 keys (.press 5)⟩

end Machine

end ChipEight
