import ChipEight.Proofs.Machine.Course
import ChipEight.Proofs.Operation.Footprint

/-! A timer holds what the program has last put into it, less one for each tick since then. -/

namespace ChipEight

/-- One of the two timers. -/
inductive Timer where
  /-- The timer that programs read. -/
  | delay
  /-- The timer that sounds while it runs. -/
  | sound
deriving DecidableEq

namespace Timer

/-- What a timer holds. -/
def held (timer : Timer) (hardware : Hardware) : UInt8 :=
  match timer with
  | delay => hardware.delay
  | sound => hardware.sound

/-- The register that an instruction puts into a timer, if it does. -/
def source? : Timer → Operation → Option Register
  | delay, .setDelay x => some x
  | sound, .setSound x => some x
  | _, _ => none

end Timer

namespace Operation

variable {operation : Operation} {before after : Hardware}

/-- An instruction leaves a timer alone unless it puts a register into it. -/
theorem held_of_effect (timer : Timer) (carriedOut : operation.effect.run before = .ok () after) :
    timer.held after =
      ((timer.source? operation).map before.register).getD (timer.held before) := by
  cases operation with
  -- Each of the two instructions sets one timer and leaves the other alone.
  | setDelay x | setSound x =>
    rw [Attempt.ok_of_modify carriedOut]
    cases timer <;> rfl
  | _ =>
    -- Neither timer is a place that any other instruction may change.
    have delay : Place.delay.Same before after :=
      same_of_effect carriedOut (by simp [footprint, Place.bytes])
    have sound : Place.sound.Same before after :=
      same_of_effect carriedOut (by simp [footprint, Place.bytes])
    cases timer with
    | delay => exact delay.symm
    | sound => exact sound.symm

/-- Reading the delay timer puts what it holds into a register. -/
theorem register_of_readDelay {x : Register}
    (carriedOut : (readDelay x).effect.run before = .ok () after) :
    after.register x = Timer.delay.held before := by
  -- The register is the one that was written.
  rw [Attempt.ok_of_modify carriedOut]
  exact Registers.read_write_self ..

end Operation

namespace Machine

/-- Whether a turn lets the timers tick. -/
def Turn.ticks (turn : Turn) : Bool :=
  match turn.act with
  | .tick => true
  | _ => false

/-- What a turn puts into a timer for the program, if it does. -/
def Turn.written? (timer : Timer) (turn : Turn) : Option UInt8 :=
  (turn.executed?.bind timer.source?).map turn.found.hardware.register

/-- What several turns have put into a timer last, or zero if they have not put anything there. -/
def lastWritten (timer : Timer) (turns : List Turn) : UInt8 :=
  (turns.filterMap (Turn.written? timer)).getLast?.getD 0

/-- The number of ticks since anything was put into a timer. -/
def ticksSince (timer : Timer) (turns : List Turn) : Nat :=
  (turns.rtakeWhile fun turn => (turn.written? timer).isNone).countP Turn.ticks

/-- A fresh program finds both timers at rest. -/
theorem held_left_of_restarts {turn : Turn} (restarts : turn.restarts = true) (timer : Timer) :
    timer.held turn.left.hardware = 0 := by
  -- A reset puts everything but the random source back to where it was at power-on.
  obtain ⟨machine, act⟩ := turn
  cases act with
  | restart => cases timer <;> rfl
  | load image =>
    cases image with
    | error error => cases restarts
    | ok rom =>
      -- The reset that comes before the image has stopped the timers.
      rw [Turn.left, perform_load_ok]
      cases timer <;> rfl
  | cycle | tick | keys _ | screen _ => cases restarts

/-- A turn of a program that goes on leaves in a timer what it puts there, or what it has found, less
one if it lets the timers tick. -/
theorem toNat_held_left {turn : Turn} (goesOn : turn.restarts = false) (timer : Timer) :
    (timer.held turn.left.hardware).toNat =
      match turn.written? timer with
      | some byte => byte.toNat
      | none => (timer.held turn.found.hardware).toNat - if turn.ticks then 1 else 0 := by
  -- Only cycles set a timer, and only ticks let it run down.
  obtain ⟨machine, act⟩ := turn
  cases act with
  | cycle =>
    show (timer.held machine.step.1.hardware).toNat = _
    rcases machine.executed?_cycle with ⟨operation, after, executed, -, carriedOut, result⟩ |
      ⟨idle, unchanged⟩
    · -- The fetch has touched neither the timers nor the registers.
      have held : timer.held after = ((timer.source? operation).map machine.hardware.register).getD
          (timer.held machine.hardware) := by
        rw [Operation.held_of_effect timer carriedOut]
        cases timer <;> rfl
      rw [result, Turn.written?, executed, Option.bind_some, held]
      cases timer.source? operation <;> rfl
    · -- A cycle without an instruction moves the counter at most.
      rw [unchanged, Turn.written?, idle]
      cases timer <;> rfl
  | tick => cases timer <;> exact toNat_tickTimer _
  -- A load either fails and does nothing or restarts the program, which is excluded.
  | load image =>
    cases image with
    | error error => rfl
    | ok rom => cases goesOn
  | restart => cases goesOn
  | keys _ | screen _ => cases timer <;> rfl

/-- What the last turn puts into a timer takes the place of all before, and no tick has come since. -/
theorem written_concat_of_some {timer : Timer} {turn : Turn} {byte : UInt8} (turns : List Turn)
    (written : turn.written? timer = some byte) :
    lastWritten timer (turns ++ [turn]) = byte ∧ ticksSince timer (turns ++ [turn]) = 0 := by
  constructor
  · -- Of the values that were put into the timer the last one counts.
    simp [lastWritten, List.filterMap_append, written]
  · -- The turns since then are none.
    rw [ticksSince, List.rtakeWhile_concat_neg _ _ _ (by simp [written])]
    rfl

/-- A last turn that puts nothing into a timer adds at most a tick. -/
theorem written_concat_of_none {timer : Timer} {turn : Turn} (turns : List Turn)
    (idle : turn.written? timer = none) :
    lastWritten timer (turns ++ [turn]) = lastWritten timer turns ∧
      ticksSince timer (turns ++ [turn]) =
        ticksSince timer turns + if turn.ticks then 1 else 0 := by
  constructor
  · -- The last value is still the one before.
    simp [lastWritten, List.filterMap_append, idle]
  · -- One more turn has passed without a value for the timer, which may have been a tick.
    rw [ticksSince, List.rtakeWhile_concat_pos _ _ _ (by simp [idle]), List.countP_append,
      List.countP_singleton]
    rfl

/-- A timer holds what the given turns have put into it last, less the ticks since then. -/
def Holds (machine : Machine) (timer : Timer) (turns : List Turn) : Prop :=
  (timer.held machine.hardware).toNat =
    (lastWritten timer turns).toNat - ticksSince timer turns

/-- A turn of a program that goes on keeps a timer in time. -/
theorem Holds.left {timer : Timer} {turn : Turn} {past : List Turn}
    (holds : turn.found.Holds timer past) (goesOn : turn.restarts = false) :
    turn.left.Holds timer (past ++ [turn]) := by
  have held := toNat_held_left goesOn timer
  cases written : turn.written? timer with
  -- The value has just been set, and no tick has been taken off it.
  | some byte =>
    obtain ⟨last, ticks⟩ := written_concat_of_some past written
    simp only [written] at held
    rw [Holds, held, last, ticks, Nat.sub_zero]
  | none =>
    -- A timer that is at rest stays so, as does the difference that is cut off at zero.
    obtain ⟨last, ticks⟩ := written_concat_of_none past written
    simp only [written] at held
    rw [Holds] at holds ⊢
    rw [held, holds, last, ticks, Nat.sub_sub]

/-- At every point of a run that began with a timer at rest, the timer holds what the turns since the
last restart have put into it last, less the ticks since then. -/
theorem Holds.performAll {machine : Machine} {timer : Timer}
    (rest : timer.held machine.hardware = 0) (acts : List Act) :
    (machine.performAll acts).1.Holds timer (sinceRestart (machine.turns acts)) := by
  refine performAll_of_turn (fun reached past => reached.Holds timer (sinceRestart past)) ?_ ?_ acts
  · -- Nothing has been put into the timer and no tick has come, so the difference is zero.
    exact congrArg UInt8.toNat rest
  · -- The last turn either stops the timer or goes on from what the turns before it have left.
    intro past turn holds
    cases restarts : turn.restarts with
    | true =>
      rw [sinceRestart_concat_of_restarts _ restarts]
      exact congrArg UInt8.toNat (held_left_of_restarts restarts timer)
    | false =>
      rw [sinceRestart_concat_of_goesOn _ restarts]
      exact holds.left restarts

/-- How the timers are accounted for at a point of a run by the turns since the last restart. -/
structure KeepsTime (machine : Machine) (turns : List Turn) : Prop where
  /-- Each timer holds what was put into it last, less the ticks since then, and stops at zero. -/
  held : ∀ timer : Timer, (timer.held machine.hardware).toNat =
    (lastWritten timer turns).toNat - ticksSince timer turns
  /-- The machine sounds exactly as long as there are fewer ticks than were asked for. -/
  sounding : machine.sounding = true ↔
    ticksSince .sound turns < (lastWritten .sound turns).toNat
  /-- If the delay timer is read next, the register gets what is left of it. -/
  read : ∀ x, Turn.executed? ⟨machine, .cycle⟩ = some (.readDelay x) →
    (machine.step.1.hardware.register x).toNat =
      (lastWritten .delay turns).toNat - ticksSince .delay turns
  /-- Whatever comes next, a timer changes only if it ticks, is set or is stopped by a restart. -/
  kept : ∀ (timer : Timer) (act : Act), act ≠ .tick → Turn.restarts ⟨machine, act⟩ = false →
    Turn.written? timer ⟨machine, act⟩ = none →
      timer.held (machine.perform act).1.hardware = timer.held machine.hardware

/-- Timers that hold what they should are accounted for. -/
theorem keepsTime_of_holds {machine : Machine} {turns : List Turn}
    (holds : ∀ timer, machine.Holds timer turns) : machine.KeepsTime turns where
  held := holds
  sounding := by
    -- The machine sounds while its sound timer is not at zero, which is to say that the difference
    -- is positive.
    have sound : machine.hardware.sound.toNat =
      (lastWritten .sound turns).toNat - ticksSince .sound turns := holds .sound
    have sounds : machine.sounding = true ↔ machine.hardware.sound.toNat ≠ 0 := by
      rw [Machine.sounding, bne_iff_ne, ne_eq, ← UInt8.toNat_inj]
      rfl
    rw [sounds, sound]
    omega
  read x executed := by
    -- The fetch has not touched the timer before it is read.
    obtain ⟨-, -, carriedOut⟩ := effect_of_executed? executed
    rw [Operation.register_of_readDelay carriedOut]
    exact holds .delay
  kept timer act other goesOn idle := by
    -- A turn that neither ticks nor writes takes nothing off the timer.
    have held := @toNat_held_left ⟨machine, act⟩ goesOn timer
    have quiet : Turn.ticks ⟨machine, act⟩ = false := by
      cases act with
      | tick => exact absurd rfl other
      | _ => rfl
    simp only [idle, quiet] at held
    exact UInt8.toNat_inj.mp held

/--
In every run from power-on, cycle by cycle, both timers are accounted for by what the program has put
into them since the last restart and by the ticks since then, whether the machine runs or not.

An instruction is carried out exactly if a cycle finds it and nothing stops it, a load restarts the
program exactly if the host is told of its success, and what a host can ask of the machine is nothing
but such runs.
-/
theorem performAll_powerOn_keepsTime (random : Random) :
    (∀ acts : List Act,
      (performAll ⟨Hardware.powerOn random, .running⟩ acts).1.KeepsTime
        (sinceRestart (turns ⟨Hardware.powerOn random, .running⟩ acts))) ∧
    (∀ turn : Turn, turn.CarriesOut) ∧
    (∀ (machine : Machine) (event : Event), machine.Tells event) ∧
    ∀ events : List Event, (applyAll ⟨Hardware.powerOn random, .running⟩ events).2 =
      performAll ⟨Hardware.powerOn random, .running⟩ (events.flatMap Event.acts) := by
  refine ⟨fun acts => ?_, Turn.carriesOut, tells, applyAll_eq_performAll _⟩
  refine keepsTime_of_holds fun timer => ?_
  -- Both timers are at rest at power-on.
  have rest : timer.held (Hardware.powerOn random) = 0 := by cases timer <;> rfl
  exact @Holds.performAll ⟨Hardware.powerOn random, .running⟩ timer rest acts

/-- A program sets its delay timer to five and comes to an end, and the timer ticks on. -/
theorem performAll_powerOn_keepsTime_behind_a_halt :
    (∃ past, KeepsTime ((powerOn 0).performAll
        [.load (Rom.ofBytes [0x60, 0x05, 0xF0, 0x15]), .cycle, .cycle, .cycle, .tick]).1 past ∧
      lastWritten .delay past = 5 ∧ ticksSince .delay past = 1) ∧
    ∃ consumed, ((powerOn 0).apply (.load [0x60, 0x05, 0xF0, 0x15])).outcome =
      .load (.ok ()) consumed := by
  obtain ⟨kept, -, told, -⟩ := performAll_powerOn_keepsTime (Random.ofSeed 0)
  -- The third cycle halts the machine, which does not stop the tick.
  exact ⟨⟨_, kept _, by decide +kernel, by decide +kernel⟩, (told _ _).loaded.mpr ⟨_, rfl⟩⟩

end Machine

end ChipEight
