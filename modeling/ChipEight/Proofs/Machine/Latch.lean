import Mathlib.Data.List.Forall2
import ChipEight.Machine.Event

/-! A halted machine stays halted and as it is, until it is reset or given a new image. -/

namespace ChipEight

namespace Machine

/-- Whether a request asks for cycles to be carried out. -/
def Event.cycles : Event → Bool
  | .step | .frame _ => true
  | _ => false

/-- Whether a request lets the timers tick. -/
def Event.ticks : Event → Bool
  | .tick => true
  | _ => false

/-- What a request does to the keys, if anything. -/
def Event.key? : Event → Option Keypad.Event
  | .keys event => some event
  | _ => none

/-- What a request does to the screen, if anything. -/
def Event.screen? : Event → Option Screen.Event
  | .screen event => some event
  | _ => none

end Machine

open Machine (Event Outcome Reply)

namespace Hardware

/-- The hardware after a request as far as a host can meet it by itself, without a program. -/
def hosted (hardware : Hardware) : Event → Hardware
  | .tick => hardware.tick
  | .keys event => { hardware with keypad := hardware.keypad.apply event }
  | .screen event => { hardware with screen := hardware.screen.apply event }
  | _ => hardware

/-- Only timers, keys and screen differ, and these by what the requests say about them. -/
structure Hosted (before after : Hardware) (events : List Event) : Prop where
  /-- All other parts are as before. -/
  kept : after = { before with
    delay := after.delay
    sound := after.sound
    keypad := after.keypad
    screen := after.screen }
  /-- The delay timer has lost one for each tick and stopped at zero. -/
  delay : after.delay.toNat = before.delay.toNat - events.countP Event.ticks
  /-- So has the sound timer. -/
  sound : after.sound.toNat = before.sound.toNat - events.countP Event.ticks
  /-- The keys are as the host has set them. -/
  keypad : after.keypad = (events.filterMap Event.key?).foldl Keypad.apply before.keypad
  /-- The screen is as the host has left it. -/
  screen : after.screen = (events.filterMap Event.screen?).foldl Screen.apply before.screen

/-- Without any request nothing differs. -/
theorem Hosted.nil (hardware : Hardware) : hardware.Hosted hardware [] :=
  ⟨rfl, rfl, rfl, rfl, rfl⟩

/-- A single request does what it says. -/
theorem Hosted.single (hardware : Hardware) (event : Event) :
    hardware.Hosted (hardware.hosted event) [event] := by
  -- A tick takes one from either timer, and the other requests take none.
  cases event with
  | tick => exact ⟨rfl, toNat_tickTimer _, toNat_tickTimer _, rfl, rfl⟩
  | _ => exact ⟨rfl, rfl, rfl, rfl, rfl⟩

/-- What later requests do comes on top of what earlier ones have done. -/
theorem Hosted.trans {before middle after : Hardware} {first second : List Event}
    (earlier : before.Hosted middle first) (later : middle.Hosted after second) :
    before.Hosted after (first ++ second) where
  -- All other parts come through both spans, and the four that may change are followed on their
  -- own.
  kept := by rw [later.kept, earlier.kept]
  delay := by
    -- Timers stop at zero, so that the ticks of both spans can be taken off at once.
    rw [later.delay, earlier.delay, List.countP_append]
    omega
  sound := by
    rw [later.sound, earlier.sound, List.countP_append]
    omega
  keypad := by rw [later.keypad, earlier.keypad, List.filterMap_append, List.foldl_append]
  screen := by rw [later.screen, earlier.screen, List.filterMap_append, List.foldl_append]

/-- Several requests do what they say one after the other. -/
theorem Hosted.foldl (hardware : Hardware) (events : List Event) :
    hardware.Hosted (events.foldl hosted hardware) events := by
  induction events generalizing hardware with
  -- The first request is met on its own, and the others come on top of it.
  | nil => exact .nil hardware
  | cons event rest ih => exact (Hosted.single hardware event).trans (ih _)

end Hardware

/-- Noting that the screen has been shown leaves its pixels alone and lowers the redraw flag. -/
theorem Screen.foldl_markShown (screen : Screen) {changes : List Screen.Event}
    (shown : ∀ change ∈ changes, change = .markShown) :
    (∀ x y, (changes.foldl Screen.apply screen).pixel x y = screen.pixel x y) ∧
      ((changes.foldl Screen.apply screen).redraw = true ↔
        screen.redraw = true ∧ changes = []) := by
  -- Each note is about the same flag, and none is about a pixel.
  induction changes generalizing screen with
  | nil => simp
  | cons change rest ih =>
    obtain rfl := shown change List.mem_cons_self
    obtain ⟨pixels, redraw⟩ := ih screen.markShown fun later listed =>
      shown later (List.mem_cons_of_mem _ listed)
    -- The first note lowers the flag, and nothing behind it raises it again.
    have lowered : screen.markShown.redraw = false := rfl
    exact ⟨pixels, redraw.trans (by simp [lowered])⟩

/-- What requests do to the screen is what those of them say that are about it. -/
theorem Machine.mem_filterMap_screen? (events : List Event) (change : Screen.Event) :
    change ∈ events.filterMap Event.screen? ↔ .screen change ∈ events := by
  rw [List.mem_filterMap]
  constructor
  · -- A request about the screen is about nothing else, so it is the one of the change.
    rintro ⟨event, listed, same⟩
    cases event <;> cases same
    exact listed
  · -- The change is picked out of its request.
    intro listed
    exact ⟨_, listed, rfl⟩

/-- A screen of which the host has done no more than to note that it has been shown has all its
pixels, and its redraw flag is up if it was before and there is no such note. -/
theorem Hardware.Hosted.shown {before after : Hardware} {events : List Event}
    (hosted : before.Hosted after events)
    (undrawn : ∀ change, .screen change ∈ events → change = .markShown) :
    (∀ x y, after.screen.pixel x y = before.screen.pixel x y) ∧
      (after.screen.redraw = true ↔
        before.screen.redraw = true ∧ .screen .markShown ∉ events) := by
  have changes := Machine.mem_filterMap_screen? events
  obtain ⟨pixels, redraw⟩ := before.screen.foldl_markShown fun change listed =>
    undrawn change ((changes change).mp listed)
  -- There is a note of having been shown just if anything is said of the screen at all.
  have unseen : events.filterMap Event.screen? = [] ↔ .screen .markShown ∉ events := by
    rw [List.eq_nil_iff_forall_not_mem]
    constructor
    · -- No change at all is listed, so the note is not.
      intro none listed
      exact none _ ((changes _).mpr listed)
    · -- Any change that is listed is the note, which is not there.
      intro unseen change listed
      obtain rfl := undrawn change ((changes change).mp listed)
      exact unseen ((changes _).mp listed)
  rw [hosted.screen, redraw, unseen]
  exact ⟨pixels, Iff.rfl⟩

namespace Machine

variable (hardware : Hardware) (fault : Fault)

/-- How a halted machine can meet a request. -/
inductive Latch (event : Event) : Reply → Prop
  /-- The host is served, nothing is carried out and nothing is said in the journal. -/
  | latched (outcome : Outcome) (goesOn : event ≠ .reset)
    (unloaded : ∀ consumed, outcome ≠ .load (.ok ()) consumed)
    (told : event.cycles = true → outcome = .running false) :
    Latch event ⟨outcome, ⟨hardware.hosted event, .halted fault⟩, []⟩
  /-- A reset or a load that succeeds makes the machine run again. -/
  | released (reply : Reply)
    (reason : event = .reset ∨ ∃ consumed, reply.outcome = .load (.ok ()) consumed)
    (running : reply.machine.run = .running) : Latch event reply

/-- A load either fails and leaves the machine halted or makes it run again. -/
theorem latch_loadResult {event : Event} (image : Except LoadError Rom) (consumed : Nat)
    (goesOn : event ≠ .reset) (quiet : event.cycles = false)
    (unhosted : hardware.hosted event = hardware) :
    Latch hardware fault event (loadResult ⟨hardware, .halted fault⟩ image consumed) := by
  cases image with
  -- A load that fails is answered with its reason, and the machine is left as it is.
  | error error =>
    have kept : Latch hardware fault event
        ⟨.load (.error (.unloadable error)) consumed, ⟨hardware.hosted event, .halted fault⟩, []⟩ := by
      refine .latched _ goesOn nofun ?_
      rw [quiet]
      exact nofun
    rwa [unhosted] at kept
  | ok rom =>
    -- The image is put in place by a reset, which makes the machine run.
    simp only [loadResult, insert_eq]
    exact .released _ (.inr ⟨consumed, rfl⟩) rfl

/-- A halted machine meets every request in one of the two ways. -/
theorem latch_apply (event : Event) :
    Latch hardware fault event (apply ⟨hardware, .halted fault⟩ event) := by
  -- Loads depend on their image, cycles are void, and the host does the rest by itself.
  cases event with
  | load bytes => exact latch_loadResult hardware fault _ _ (by simp) rfl rfl
  | loadFrom source reported => exact latch_loadResult hardware fault _ _ (by simp) rfl rfl
  | loadFile file =>
    cases file with
    | error failure =>
      exact latch_loadResult hardware fault (.error (.unreadable failure)) 0 (by simp) rfl rfl
    | ok opened =>
      exact @latch_loadResult hardware fault (.loadFile (.ok opened)) _ _ (by simp) rfl rfl
  | reset => exact .released _ (.inl rfl) rfl
  | step => exact .latched _ (by simp) (by simp) fun _ => rfl
  -- A frame on a halted machine ends before its first cycle.
  | frame count =>
    have none := @frame_of_halted ⟨hardware, .halted fault⟩ fault rfl count
    simp only [apply, none]
    exact .latched _ (by simp) (by simp) fun _ => rfl
  | tick | keys _ | screen _ => exact .latched _ (by simp) (by simp) (by simp [Event.cycles])

/-- A halted machine that is neither reset nor given an image has done nothing of its own. -/
theorem applyAll_of_halted (events : List Event) (goesOn : .reset ∉ events)
    (unloaded : ∀ consumed,
      .load (.ok ()) consumed ∉ (applyAll ⟨hardware, .halted fault⟩ events).1) :
    (applyAll ⟨hardware, .halted fault⟩ events).2 =
        (⟨events.foldl Hardware.hosted hardware, .halted fault⟩, []) ∧
      List.Forall₂ (fun event outcome => event.cycles = true → outcome = .running false)
        events (applyAll ⟨hardware, .halted fault⟩ events).1 := by
  -- As long as the machine is halted the next request is met without a program.
  induction events generalizing hardware with
  | nil => exact ⟨rfl, .nil⟩
  | cons event rest ih =>
    rw [List.mem_cons, not_or] at goesOn
    simp only [applyAll, List.mem_cons, not_or] at unloaded ⊢
    -- The first request either leaves the machine halted or would have been a reset or a load.
    have latch := latch_apply hardware fault event
    generalize apply ⟨hardware, .halted fault⟩ event = reply at latch unloaded ⊢
    cases latch with
    -- The machine is halted as before, so the others are met in the same way.
    | latched outcome _ _ told =>
      obtain ⟨final, outcomes⟩ := ih (hardware.hosted event) goesOn.2 fun consumed =>
        (unloaded consumed).2
      refine ⟨?_, .cons told outcomes⟩
      simp only [final, List.foldl_cons, List.nil_append]
    | released _ reason _ =>
      -- Both reasons for running again are excluded, for the first request as for the others.
      rcases reason with reset | ⟨consumed, loaded⟩
      · exact absurd reset.symm goesOn.1
      · exact absurd loaded.symm (unloaded consumed).1

/-- What becomes of a machine that is halted for a fault and stays so, and what its host is told. -/
structure StaysHalted (events : List Event) (result : List Outcome × Machine × Journal) : Prop where
  /-- The machine is halted for the very same fault. -/
  run : result.2.1.run = .halted fault
  /-- The journal has gained nothing. -/
  journal : result.2.2 = []
  /-- There is one answer for each request, and whoever asks for cycles is told that none are
  carried out. -/
  told : List.Forall₂ (fun event outcome => event.cycles = true → outcome = .running false)
    events result.1
  /-- Nothing has changed but timers, keys and screen, as the host had it. -/
  hosted : hardware.Hosted result.2.1.hardware events
  /-- Not a single pixel of the screen has changed. -/
  pixels : ∀ x y, result.2.1.hardware.screen.pixel x y = hardware.screen.pixel x y
  /-- The redraw flag is up if it was before and the screen has not been shown. -/
  redraw : result.2.1.hardware.screen.redraw = true ↔
    hardware.screen.redraw = true ∧ .screen .markShown ∉ events

/-- A halted machine stays halted as long as its host neither resets it nor draws on its screen nor
succeeds in loading an image. -/
theorem staysHalted (events : List Event) (goesOn : .reset ∉ events)
    (undrawn : ∀ change, .screen change ∈ events → change = .markShown)
    (unloaded : ∀ consumed,
      .load (.ok ()) consumed ∉ (applyAll ⟨hardware, .halted fault⟩ events).1) :
    StaysHalted hardware fault events (applyAll ⟨hardware, .halted fault⟩ events) := by
  -- What the host has done itself is all that has changed, so the rest is known of any host.
  obtain ⟨final, told⟩ := applyAll_of_halted hardware fault events goesOn unloaded
  have hosted := Hardware.Hosted.foldl hardware events
  obtain ⟨pixels, redraw⟩ := hosted.shown undrawn
  exact
    { run := by rw [final]
      journal := by rw [final]
      told := told
      hosted := by rw [final]; exact hosted
      pixels := by rw [final]; exact pixels
      redraw := by rw [final]; exact redraw }

/-- Halting latches. A halted machine stays halted for the same fault and as it was, whatever is asked
of it, until it is reset or an image is loaded, and each of these makes it run again. -/
theorem halted_latches :
    (∀ events : List Event, .reset ∉ events →
      (∀ change, .screen change ∈ events → change = .markShown) →
      (∀ consumed, .load (.ok ()) consumed ∉ (applyAll ⟨hardware, .halted fault⟩ events).1) →
      StaysHalted hardware fault events (applyAll ⟨hardware, .halted fault⟩ events)) ∧
    (∀ events : List Event, (applyAll ⟨hardware, .halted fault⟩ events).2.1.run ≠ .halted fault →
      .reset ∈ events ∨
        ∃ consumed, .load (.ok ()) consumed ∈ (applyAll ⟨hardware, .halted fault⟩ events).1) ∧
    ∀ event : Event, (apply ⟨hardware, .halted fault⟩ event).machine.run = .running ↔
      event = .reset ∨
        ∃ consumed, (apply ⟨hardware, .halted fault⟩ event).outcome = .load (.ok ()) consumed := by
  refine ⟨staysHalted hardware fault, ?_, ?_⟩
  · -- A machine that is halted no more has met one of the two reasons on the way.
    intro events released
    refine Classical.byContradiction fun kept => ?_
    rw [not_or, not_exists] at kept
    obtain ⟨final, -⟩ := applyAll_of_halted hardware fault events kept.1 kept.2
    exact released (by rw [final])
  · -- One request is enough to look at, as it is met in one of two ways.
    intro event
    have latch := latch_apply hardware fault event
    generalize apply ⟨hardware, .halted fault⟩ event = reply at latch
    cases latch with
    | latched outcome goesOn unloaded told =>
      -- Neither of the two reasons is given, and the machine does not run.
      refine ⟨nofun, ?_⟩
      rintro (reset | ⟨consumed, loaded⟩)
      · exact absurd reset goesOn
      · exact absurd loaded (unloaded consumed)
    | released _ reason running => exact ⟨fun _ => reason, fun _ => running⟩

/-- A machine that has returned from nowhere is served by its host but does not run on. -/
theorem halted_latches_when_served :
    StaysHalted (Hardware.powerOn (Random.ofSeed 0)) .noPendingCall
      [.step, .tick, .keys (.press 3), .loadFile (.error .missing), .frame 7, .screen .markShown]
      (applyAll ⟨Hardware.powerOn (Random.ofSeed 0), .halted .noPendingCall⟩
        [.step, .tick, .keys (.press 3), .loadFile (.error .missing), .frame 7,
          .screen .markShown]) := by
  -- No reset is asked for, the screen is shown once, and the only load fails.
  refine (halted_latches _ _).1 _ ?_ ?_ ?_
  · simp
  · simp
  · intro consumed
    have outcomes : (applyAll ⟨Hardware.powerOn (Random.ofSeed 0), .halted .noPendingCall⟩
        [.step, .tick, .keys (.press 3), .loadFile (.error .missing), .frame 7,
          .screen .markShown]).1 =
      [.running false, .done, .done, .load (.error (.unloadable (.unreadable .missing))) 0,
        .running false, .done] := rfl
    simp [outcomes]

end Machine

end ChipEight
