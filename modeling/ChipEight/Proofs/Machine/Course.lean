import Mathlib.Data.List.DropRight
import ChipEight.Machine.Event
import ChipEight.Proofs.Machine.Cycle

/-! The course of a run, act by act, with the instructions that were carried out on the way. -/

namespace ChipEight

namespace Machine

/-- The least that a host can have a machine do. -/
inductive Act where
  /-- One cycle, which is void on a halted machine. -/
  | cycle
  /-- One tick of both timers. -/
  | tick
  /-- A change of the keys. -/
  | keys (event : Keypad.Event)
  /-- A change of the screen. -/
  | screen (event : Screen.Event)
  /-- A reset. -/
  | restart
  /-- A load with the image that was had, or with the reason why there was none. -/
  | load (image : Except LoadError Rom)

/-- The acts that meet a request, which are the same for every machine. -/
def Event.acts : Event → List Act
  -- Wherever an image comes from, all that matters to the machine is what was had in the end.
  | .load bytes => [.load (Rom.ofBytes bytes)]
  | .loadFrom source reported => [.load (Rom.ofSource source reported).1]
  | .loadFile (.error failure) => [.load (.error (.unreadable failure))]
  | .loadFile (.ok opened) => [.load (Rom.ofSource opened.source opened.reported).1]
  | .reset => [.restart]
  | .step => [.cycle]
  -- A frame that a halt cuts short would have had void cycles only.
  | .frame count => List.replicate count .cycle
  | .tick => [.tick]
  | .keys event => [.keys event]
  | .screen event => [.screen event]

/-- The machine after an act, with what the journal gained. -/
def perform (machine : Machine) : Act → Machine × Journal
  | .cycle => machine.step
  | .tick => (machine.tick, [])
  | .keys event => (machine.setKeys event, [])
  | .screen event => (machine.setScreen event, [])
  | .restart => machine.reset
  -- Without an image there is nothing to be done.
  | .load (.error _) => (machine, [])
  | .load (.ok rom) => (machine.insert rom).2

/-- The machine after several acts, with what the journal gained. -/
def performAll (machine : Machine) : List Act → Machine × Journal
  | [] => (machine, [])
  | act :: rest =>
    let (next, lines) := machine.perform act
    let (final, more) := next.performAll rest
    (final, lines ++ more)

/-- Acts that come after others find the machine that those have left. -/
theorem performAll_append (machine : Machine) (first second : List Act) :
    machine.performAll (first ++ second) =
      (((machine.performAll first).1.performAll second).1,
        (machine.performAll first).2 ++ ((machine.performAll first).1.performAll second).2) := by
  -- The first of all acts is followed by those that come after it on either side.
  induction first generalizing machine with
  | nil => simp [performAll]
  | cons act rest ih =>
    simp only [List.cons_append, performAll]
    rw [ih]
    simp [List.append_assoc]

/-- The last of several acts finds the machine that the others have left. -/
theorem performAll_concat (machine : Machine) (acts : List Act) (act : Act) :
    (machine.performAll (acts ++ [act])).1 = ((machine.performAll acts).1.perform act).1 := by
  -- The last act is a run of its own behind the others.
  rw [performAll_append]
  simp [performAll]

/-- As many cycles as a frame has do what the frame does. -/
theorem performAll_replicate_cycle (machine : Machine) (count : Nat) :
    machine.performAll (List.replicate count .cycle) = machine.frame count := by
  -- Each of the cycles is a step, also behind the one that halts the machine.
  induction count generalizing machine with
  | zero => rfl
  | succ count ih =>
    rw [List.replicate_succ, frame_succ]
    simp only [performAll, perform]
    rw [ih]

/-- An image that was had is put into a machine that has just been reset. -/
theorem perform_load_ok (machine : Machine) (rom : Rom) :
    machine.perform (.load (.ok rom)) =
      (⟨{ machine.hardware.reset with memory := Memory.powerOn.overlay programStart rom.bytes },
          .running⟩,
        [.reset, .loaded rom.bytes.length]) :=
  -- The reset inside makes place for any image, so that nothing is left to fail.
  congrArg Prod.snd (machine.insert_eq rom)

/-- Loading what was had of an image is a single act. -/
theorem perform_load (machine : Machine) (image : Except LoadError Rom) (consumed : Nat) :
    machine.perform (.load image) =
      ((machine.loadResult image consumed).machine, (machine.loadResult image consumed).journal) := by
  -- Either there was no image, and nothing is done, or it is put in place on both sides.
  cases image <;> rfl

/-- A request is met by its acts. -/
theorem performAll_acts (machine : Machine) (event : Event) :
    machine.performAll event.acts =
      ((machine.apply event).machine, (machine.apply event).journal) := by
  -- The number of bytes taken from a source is told to the host and makes no other difference.
  have single (act : Act) : machine.performAll [act] = machine.perform act := by
    simp [performAll]
  -- Every request but a frame has a single act, and a frame has cycles.
  cases event with
  | load bytes => exact (single _).trans (perform_load ..)
  | loadFrom source reported => exact (single _).trans (perform_load ..)
  | loadFile file =>
    cases file with
    | error failure => exact (single _).trans (perform_load ..)
    | ok opened => exact (single _).trans (perform_load ..)
  | frame count => exact machine.performAll_replicate_cycle count
  | reset => exact single _
  | step => exact single _
  | tick => exact single _
  | keys event => exact single _
  | screen event => exact single _

/-- What the host is told of a load, by the acts that meet its request. -/
structure Tells (machine : Machine) (event : Event) : Prop where
  /-- It is told of success exactly if there is an image to be put in place. -/
  loaded : (∃ consumed, (machine.apply event).outcome = .load (.ok ()) consumed) ↔
    ∃ rom, event.acts = [.load (.ok rom)]
  /-- It is told of a fault exactly if this is the reason why there is none. -/
  refused : ∀ fault, (∃ consumed, (machine.apply event).outcome = .load (.error fault) consumed) ↔
    ∃ error, fault = .unloadable error ∧ event.acts = [.load (.error error)]

/-- What is told of a load is whether there was an image for the one act that it comes to. -/
theorem tells_of_image {machine : Machine} {event : Event} {image : Except LoadError Rom}
    {consumed : Nat} (met : machine.apply event = machine.loadResult image consumed)
    (act : event.acts = [.load image]) : machine.Tells event := by
  constructor
  all_goals rw [met, act]
  case loaded =>
    -- Without an image the fault that is told is the reason, and there is no image to be told of.
    cases image with
    | error error => simp [loadResult]
    | ok rom => simp [loadResult, insert_eq]
  case refused =>
    intro fault
    -- Where there was an image the reply is one of success, which leaves no room for a fault.
    cases image with
    | error error => simp [loadResult, eq_comm]
    | ok rom => simp [loadResult, insert_eq]

/-- Of a request that is no load nothing is told that would belong to one. -/
theorem tells_of_other {machine : Machine} {event : Event}
    (other : ∀ result consumed, (machine.apply event).outcome ≠ .load result consumed)
    (unloaded : ∀ image, event.acts ≠ [.load image]) : machine.Tells event where
  -- Neither side of the first clause can hold, nor of the second.
  loaded := ⟨fun ⟨consumed, told⟩ => absurd told (other _ consumed),
    fun ⟨_, act⟩ => absurd act (unloaded _)⟩
  refused _ := ⟨fun ⟨consumed, told⟩ => absurd told (other _ consumed),
    fun ⟨_, _, act⟩ => absurd act (unloaded _)⟩

/-- The host is told of every load what it comes to, and of nothing else. -/
theorem tells (machine : Machine) (event : Event) : machine.Tells event := by
  -- The three kinds of loads differ in how the image is had, and the others do not have any.
  cases event with
  -- The image that was had is the argument of the act.
  | load bytes => exact tells_of_image rfl rfl
  | loadFrom source reported => exact tells_of_image rfl rfl
  | loadFile file =>
    cases file with
    | error failure => exact tells_of_image rfl rfl
    | ok opened => exact tells_of_image rfl rfl
  | frame count =>
    refine tells_of_other (by simp [apply]) fun image act => ?_
    -- However many cycles a frame has, none of them is a load.
    have listed : Act.load image ∈ List.replicate count .cycle := by
      rw [show List.replicate count .cycle = [Act.load image] from act]
      exact List.mem_singleton_self _
    cases List.eq_of_mem_replicate listed
  -- The remaining requests have one act, which is another than a load.
  | reset | step | tick | keys _ | screen _ =>
    exact tells_of_other (by simp [apply]) (by simp [Event.acts])

/-- Several requests are met by the acts of each of them in turn. -/
theorem applyAll_eq_performAll (machine : Machine) (events : List Event) :
    (machine.applyAll events).2 = machine.performAll (events.flatMap Event.acts) := by
  -- The acts of the first request lead to the machine of which the others are asked.
  induction events generalizing machine with
  | nil => rfl
  | cons event rest ih =>
    rw [List.flatMap_cons, performAll_append, performAll_acts, ← ih]
    rfl

/-- Steps are met by as many cycles. -/
theorem flatMap_acts_replicate_step (count : Nat) :
    (List.replicate count Event.step).flatMap Event.acts = List.replicate count .cycle := by
  -- Each step contributes one cycle to the acts.
  simp [List.flatMap_replicate, Event.acts]

/-- One act of a run with the machine that it found. -/
structure Turn where
  /-- The machine before the act. -/
  found : Machine
  /-- The act. -/
  act : Act

/-- The turns of a run, one for each act. -/
def turns (machine : Machine) : List Act → List Turn
  | [] => []
  | act :: rest => ⟨machine, act⟩ :: (machine.perform act).1.turns rest

/-- The turns of acts that come after others are those of a run from the machine that the others
have left. -/
theorem turns_append (machine : Machine) (first second : List Act) :
    machine.turns (first ++ second) =
      machine.turns first ++ (machine.performAll first).1.turns second := by
  -- The first of all acts makes up the first turn on either side.
  induction first generalizing machine with
  | nil => rfl
  | cons act rest ih =>
    simp only [List.cons_append, turns, performAll]
    rw [ih]

/-- The last turn of a run finds the machine that the acts before it have left. -/
theorem turns_concat (machine : Machine) (acts : List Act) (act : Act) :
    machine.turns (acts ++ [act]) =
      machine.turns acts ++ [⟨(machine.performAll acts).1, act⟩] :=
  machine.turns_append acts [act]

end Machine

/-- The instruction at the program counter, if there is a whole word that spells one. -/
def Hardware.instruction? (hardware : Hardware) : Option Operation :=
  if hardware.pc.toNat < 0x0FFF then (Operation.decode hardware.wordAhead).toOption else none

namespace Machine.Turn

/-- The machine that a turn leaves. -/
def left (turn : Turn) : Machine :=
  (turn.found.perform turn.act).1

/-- The instruction that a turn carries out, if it carries one out. -/
def executed? (turn : Turn) : Option Operation :=
  match turn.act with
  -- A cycle that halts the machine has not carried out the instruction that it found.
  | .cycle =>
    if turn.found.run = .running ∧ turn.left.run = .running then turn.found.hardware.instruction?
    else none
  | _ => none

/-- Whether a turn starts a program afresh, with an image or without one. -/
def restarts (turn : Turn) : Bool :=
  match turn.act with
  | .restart | .load (.ok _) => true
  | _ => false

end Machine.Turn

namespace Machine

/-- The instructions that a run carries out, the first one first. -/
def executed (machine : Machine) (acts : List Act) : List Operation :=
  (machine.turns acts).filterMap Turn.executed?

/-- The turns behind the last one that started a program afresh, or all if there was none. -/
def sinceRestart (turns : List Turn) : List Turn :=
  turns.rtakeWhile fun turn => !turn.restarts

/-- A turn that restarts the program leaves nothing behind it. -/
theorem sinceRestart_concat_of_restarts {turn : Turn} (turns : List Turn)
    (restarts : turn.restarts = true) : sinceRestart (turns ++ [turn]) = [] :=
  List.rtakeWhile_concat_neg _ _ _ (by simp [restarts])

/-- Any other turn is added to those since the last restart. -/
theorem sinceRestart_concat_of_goesOn {turn : Turn} (turns : List Turn)
    (goesOn : turn.restarts = false) :
    sinceRestart (turns ++ [turn]) = sinceRestart turns ++ [turn] :=
  List.rtakeWhile_concat_pos _ _ _ (by simp [goesOn])

/-- What holds at the start of a run and is passed on by each of its turns holds at every point of
the run. -/
theorem performAll_of_turn {machine : Machine} (holds : Machine → List Turn → Prop)
    (start : holds machine [])
    (passedOn : ∀ (past : List Turn) (turn : Turn),
      holds turn.found past → holds turn.left (past ++ [turn]))
    (acts : List Act) : holds (machine.performAll acts).1 (machine.turns acts) := by
  -- The last turn finds what the acts before it have left.
  induction acts using List.reverseRecOn with
  | nil => exact start
  | append_singleton acts act ih =>
    rw [performAll_concat, turns_concat]
    exact passedOn _ ⟨(machine.performAll acts).1, act⟩ ih

end Machine

namespace Hardware

/-- A whole word that is decoded is the instruction at the program counter. -/
theorem instruction?_eq_some_iff (hardware : Hardware) (operation : Operation) :
    hardware.instruction? = some operation ↔
      hardware.pc.toNat < 0x0FFF ∧ Operation.decode hardware.wordAhead = .ok operation := by
  -- Both sides ask for the whole word first.
  unfold instruction?
  by_cases room : hardware.pc.toNat < 0x0FFF
  · cases decoded : Operation.decode hardware.wordAhead <;> simp [room, Except.toOption]
  · simp [room]

end Hardware

namespace Machine

/-- A cycle either carries out the instruction at the program counter of a running machine, or it
changes nothing of the hardware but the counter. -/
theorem executed?_cycle (machine : Machine) :
    (∃ operation after, Turn.executed? ⟨machine, .cycle⟩ = some operation ∧
      machine.hardware.pc.toNat < 0x0FFF ∧
      operation.effect.run machine.hardware.passed = .ok () after ∧
      machine.step.1 = ⟨after, .running⟩) ∨
    (Turn.executed? ⟨machine, .cycle⟩ = none ∧
      machine.step.1.hardware = { machine.hardware with pc := machine.step.1.hardware.pc }) := by
  -- What is asked is whether the machine runs before the cycle and behind it.
  have asked : Turn.executed? ⟨machine, .cycle⟩ =
      if machine.run = .running ∧ machine.step.1.run = .running then machine.hardware.instruction?
      else none := rfl
  rw [asked]
  cases running : machine.run with
  | halted fault =>
    -- A halted machine carries out no cycle at all.
    right
    rw [step_of_halted running]
    simp
  | running =>
    -- Of the four outcomes of a cycle only the last leaves the machine running.
    have outcome := cycle_step running
    generalize machine.step = result at outcome ⊢
    cases outcome with
    | unfetched late => exact .inr ⟨by simp, rfl⟩
    | unread room unknown => exact .inr ⟨by simp, rfl⟩
    | stopped room read obstacle => exact .inr ⟨by simp, rfl⟩
    | @done room operation after read obstacle carriedOut =>
      have found := (machine.hardware.instruction?_eq_some_iff operation).mpr ⟨room, read⟩
      exact .inl ⟨operation, after, by simp [found], room, carriedOut, rfl⟩

/-- A cycle that carries out an instruction does nothing else once the word has been passed. -/
theorem effect_of_executed? {machine : Machine} {operation : Operation}
    (executed : Turn.executed? ⟨machine, .cycle⟩ = some operation) :
    machine.hardware.passed.pc.toNat = machine.hardware.pc.toNat + 2 ∧
      machine.hardware.passed.pc.toNat ≤ 0x1000 ∧
      operation.effect.run machine.hardware.passed = .ok () machine.step.1.hardware := by
  -- Of the two outcomes of a cycle only the first carries an instruction out.
  rcases machine.executed?_cycle with ⟨other, after, found, room, carriedOut, result⟩ |
    ⟨none, -⟩
  · obtain rfl : other = operation := Option.some.inj (found.symm.trans executed)
    have behind := Hardware.toNat_pc_passed room
    rw [result]
    exact ⟨behind, by omega, carriedOut⟩
  · rw [executed] at none
    cases none

/-- A cycle of a running machine that can carry out the instruction it finds does so. -/
theorem executed?_of_effect {machine : Machine} {operation : Operation} {after : Hardware}
    (running : machine.run = .running) (room : machine.hardware.pc.toNat < 0x0FFF)
    (read : Operation.decode machine.hardware.wordAhead = .ok operation)
    (carriedOut : operation.effect.run machine.hardware.passed = .ok () after) :
    Turn.executed? ⟨machine, .cycle⟩ = some operation := by
  -- The cycle that carries its instruction out leaves the machine running.
  have goesOn : machine.step.1.run = .running := by
    simp only [step, running, advance_of_carriedOut room read carriedOut]
  have found := (machine.hardware.instruction?_eq_some_iff operation).mpr ⟨room, read⟩
  exact (if_pos ⟨running, goesOn⟩).trans found

/-- The instructions of a run are those of its first act, if there is one, and those of the rest. -/
theorem mem_executed_cons {machine : Machine} {act : Act} {rest : List Act}
    {operation : Operation} :
    operation ∈ machine.executed (act :: rest) ↔
      Turn.executed? ⟨machine, act⟩ = some operation ∨
        operation ∈ (machine.perform act).1.executed rest := by
  -- The first act makes the first turn, and the others come from the machine it leaves.
  simp [executed, turns, List.mem_filterMap]

/-- The instructions of acts that come after others are carried out from the machine that the others
have left. -/
theorem executed_append (machine : Machine) (first second : List Act) :
    machine.executed (first ++ second) =
      machine.executed first ++ (machine.performAll first).1.executed second := by
  simp only [executed, turns_append, List.filterMap_append]

/-- Only a cycle carries out an instruction. -/
theorem act_of_executed? {machine : Machine} {act : Act} {operation : Operation}
    (executed : Turn.executed? ⟨machine, act⟩ = some operation) : act = .cycle := by
  cases act with
  | cycle => rfl
  | _ => cases executed

/-- What a turn has found if it carries out an instruction, and that it leaves a running machine. -/
theorem found_of_executed? {turn : Turn} {operation : Operation}
    (executed : turn.executed? = some operation) :
    turn.act = .cycle ∧ turn.found.run = .running ∧ turn.left.run = .running ∧
      turn.found.hardware.instruction? = some operation := by
  -- The word carried out is that of a cycle, before which and behind which the machine runs.
  obtain ⟨machine, act⟩ := turn
  obtain rfl := act_of_executed? executed
  simp only [Turn.executed?] at executed
  split at executed
  case isTrue runs => exact ⟨rfl, runs.1, runs.2, executed⟩
  case isFalse => cases executed

/-- When a turn carries out an instruction, and what it leaves then. -/
structure Turn.CarriesOut (turn : Turn) : Prop where
  /-- It carries out an instruction exactly if it is a cycle of a running machine that finds a whole
  word at the program counter, the word spells the instruction, and no fault stops the effect. -/
  exactly : ∀ operation, turn.executed? = some operation ↔
    turn.act = .cycle ∧ turn.found.run = .running ∧ turn.found.hardware.pc.toNat < 0x0FFF ∧
      Operation.decode turn.found.hardware.wordAhead = .ok operation ∧
      ∃ after, operation.effect.run turn.found.hardware.passed = .ok () after
  /-- The effect is all that the turn leaves, once the word has been passed. -/
  leaves : ∀ operation after, turn.executed? = some operation →
    operation.effect.run turn.found.hardware.passed = .ok () after →
      turn.left = ⟨after, .running⟩

/-- Every turn carries out an instruction when it should, and does nothing else then. -/
theorem Turn.carriesOut (turn : Turn) : turn.CarriesOut := by
  obtain ⟨machine, act⟩ := turn
  constructor
  case exactly =>
    intro operation
    constructor
    · -- That the machine runs on means that the effect came to its end.
      intro executed
      obtain ⟨rfl, running, -, found⟩ := found_of_executed? executed
      obtain ⟨room, read⟩ := (Hardware.instruction?_eq_some_iff ..).mp found
      exact ⟨rfl, running, room, read, _, (effect_of_executed? executed).2.2⟩
    · -- Nothing stops the cycle, so it carries out what it finds.
      rintro ⟨rfl, running, room, read, after, carriedOut⟩
      exact executed?_of_effect running room read carriedOut
  case leaves =>
    intro operation after executed carriedOut
    obtain ⟨rfl, -, goesOn, -⟩ := found_of_executed? executed
    -- The effect has one outcome only, which is the hardware that the cycle leaves.
    have same := (effect_of_executed? executed).2.2.symm.trans carriedOut
    cases same
    rw [← goesOn]
    rfl

/-- Whatever is not a cycle carries out no instruction. Either it restarts the program, which forgets
the calls, or it leaves the run and the call stack alone. -/
theorem perform_of_ne_cycle (machine : Machine) {act : Act} (idle : act ≠ .cycle) :
    Turn.executed? ⟨machine, act⟩ = none ∧
      ((Turn.restarts ⟨machine, act⟩ = true ∧ (machine.perform act).1.run = .running ∧
          (machine.perform act).1.hardware.stack = machine.hardware.stack.clear) ∨
        (Turn.restarts ⟨machine, act⟩ = false ∧ (machine.perform act).1.run = machine.run ∧
          (machine.perform act).1.hardware.stack = machine.hardware.stack)) := by
  -- The acts are gone through one by one, as each says what it leaves.
  cases act with
  | cycle => exact absurd rfl idle
  | restart => exact ⟨rfl, .inl ⟨rfl, rfl, rfl⟩⟩
  | load image =>
    cases image with
    | error error => exact ⟨rfl, .inr ⟨rfl, rfl, rfl⟩⟩
    | ok rom =>
      -- The reset comes before the image.
      rw [perform_load_ok]
      exact ⟨rfl, .inl ⟨rfl, rfl, rfl⟩⟩
  | tick | keys _ | screen _ => exact ⟨rfl, .inr ⟨rfl, rfl, rfl⟩⟩

end Machine

end ChipEight
