import ChipEight.Proofs.Machine.Simulation
import ChipEight.Proofs.Operation.Success
import ChipEight.Proofs.Screen.Draw

/-! What a machine only puts out, its sound and its request for a redraw, has no influence on anything
that it does, so that a host may show the screen whenever it likes. -/

namespace ChipEight

namespace Screen

/-- Drawing looks at the pixels of a screen and at nothing else. -/
theorem draw_eq_of_pixels {first second : Screen}
    (pixels : ∀ column row, second.pixel column row = first.pixel column row) (x y : Nat)
    (bytes : List UInt8) : second.draw x y bytes = first.draw x y bytes := by
  apply Prod.ext
  · -- Each pixel is toggled or left alone for the sake of the sprite, and both ask for a redraw.
    refine Screen.ext (fun column within row above => ?_) rfl
    have left := pixel_drawRows (x % 64) (y % 32) bytes (first, false) column row within above
    have right := pixel_drawRows (x % 64) (y % 32) bytes (second, false) column row within above
    exact right.trans ((congrArg (· ^^ _) (pixels column row)).trans left.symm)
  · -- A sprite hits the same lit pixels.
    rw [Bool.eq_iff_iff]
    refine (collided_drawRows (x % 64) (y % 32) bytes (second, false)).trans ?_
    simp only [pixels]
    exact (collided_drawRows (x % 64) (y % 32) bytes (first, false)).symm

end Screen

/-- Two states of hardware that differ at most in the redraw flag and in sound timers that are
related in some way. -/
structure Hardware.Concurs (sounds : UInt8 → UInt8 → Prop) (first second : Hardware) : Prop where
  /-- All parts but the sound timer and the screen are the same. -/
  others : second = { first with sound := second.sound, screen := second.screen }
  /-- So are all pixels of the screen. -/
  pixels : ∀ x y, second.screen.pixel x y = first.screen.pixel x y
  /-- The sound timers are related. -/
  sound : sounds first.sound second.sound

/-- What it takes for a relation between sound timers to last. -/
structure Lasting (sounds : UInt8 → UInt8 → Prop) : Prop where
  /-- Timers with the same value are related. -/
  same : ∀ value, sounds value value
  /-- Related timers are still related when both have ticked. -/
  tick : ∀ {first second}, sounds first second → sounds (tickTimer first) (tickTimer second)

/-- It lasts that timers have any values whatsoever. -/
theorem lasting_any : Lasting fun _ _ => True :=
  -- Nothing is asked of the values.
  ⟨fun _ => trivial, fun _ => trivial⟩

/-- It lasts that timers have the same value. -/
theorem lasting_eq : Lasting Eq :=
  -- The next value of a timer depends on nothing but its value.
  ⟨fun _ => rfl, congrArg tickTimer⟩

variable {sounds : UInt8 → UInt8 → Prop}

namespace Hardware

variable {first second : Hardware}

/-- Hardware concurs with itself. -/
theorem Concurs.refl (lasting : Lasting sounds) (hardware : Hardware) :
    hardware.Concurs sounds hardware :=
  ⟨rfl, fun _ _ => rfl, lasting.same _⟩

/-- A change that has nothing to do with sound and screen lets hardware concur as before. -/
theorem Concurs.change (kept : first.Concurs sounds second) (change : Hardware → Hardware)
    (apart : ∀ (hardware : Hardware) (sound : UInt8) (screen : Screen),
      change { hardware with sound, screen } = { change hardware with sound, screen }) :
    (change first).Concurs sounds (change second) := by
  -- What is put out could as well be put in place after the change.
  have unmoved := apart first first.sound first.screen
  have sound : (change first).sound = first.sound := (congrArg Hardware.sound unmoved).trans rfl
  have screen : (change first).screen = first.screen :=
    (congrArg Hardware.screen unmoved).trans rfl
  have moved : change second =
      { change first with sound := second.sound, screen := second.screen } := by
    rw [← apart, ← kept.others]
  refine ⟨?_, ?_, ?_⟩
  · -- All other parts are those that the first one has after the change.
    rw [moved]
  · rw [moved, screen]
    exact kept.pixels
  · rw [moved, sound]
    exact kept.sound

/-- Passing over a word or not makes the same difference to both. -/
theorem Concurs.skipWhen (kept : first.Concurs sounds second) (condition : Bool) :
    (first.skipWhen condition).Concurs sounds (second.skipWhen condition) := by
  -- Only the counter moves, or nothing does.
  refine kept.change (fun hardware => hardware.skipWhen condition) ?_
  intro hardware sound screen
  cases condition <;> rfl

/-- Whatever the host does to their screens, both show the same pixels afterwards. -/
theorem Concurs.apply (kept : first.Concurs sounds second) (event : Screen.Event) :
    ({ first with screen := first.screen.apply event } : Hardware).Concurs sounds
      { second with screen := second.screen.apply event } := by
  refine ⟨?_, ?_, kept.sound⟩
  · -- The screen is replaced on both sides, and the sound timer is not touched.
    rw [kept.others]
  · cases event with
    -- The sprite goes over the same pixels.
    | draw x y bytes =>
      simp only [Screen.apply]
      rw [Screen.draw_eq_of_pixels kept.pixels]
      exact fun _ _ => rfl
    | clear => exact fun _ _ => rfl
    | markShown => exact kept.pixels

end Hardware

namespace Operation

variable {operation : Operation} {first second left right : Hardware}

/-- What is put out is no obstacle. -/
theorem obstacle_of_concurs (operation : Operation) (kept : first.Concurs sounds second) :
    operation.obstacle first = operation.obstacle second := by
  -- No instruction fails for the sake of a screen or of a timer.
  rw [kept.others]
  cases operation <;> rfl

/-- What an instruction leaves behind concurs if what it found does. -/
theorem concurs_of_effect (lasting : Lasting sounds) (kept : first.Concurs sounds second)
    (one : operation.effect.run first = .ok () left)
    (two : operation.effect.run second = .ok () right) : left.Concurs sounds right := by
  -- All that differs is taken apart first, so that the two states are one with parts replaced.
  have skips := fun condition => kept.skipWhen condition
  obtain ⟨others, pixels, sound⟩ := kept
  generalize second.sound = timer at others sound
  generalize second.screen = screen at others pixels
  subst others
  cases operation with
  | clear =>
    -- Both screens are dark now and ask for a redraw.
    rw [Attempt.ok_of_modify one, Attempt.ok_of_modify two]
    exact ⟨rfl, fun _ _ => rfl, sound⟩
  | draw x y height =>
    -- The same sprite is drawn on the same pixels, so it hits the same ones.
    obtain ⟨drawn, collided, -, plain, rfl⟩ := ok_of_draw one
    obtain ⟨other, flag, -, found, rfl⟩ := ok_of_draw two
    have same : first.screen.draw _ _ _ = (other, flag) :=
      (Screen.draw_eq_of_pixels pixels _ _ _).symm.trans found
    cases plain.symm.trans same
    exact ⟨rfl, fun _ _ => rfl, sound⟩
  | setSound x =>
    -- The register that is put into the timers is the same.
    rw [Attempt.ok_of_modify one, Attempt.ok_of_modify two]
    exact ⟨rfl, pixels, lasting.same _⟩
  -- The address is taken off the one stack that both have.
  | ret =>
    obtain ⟨address, stack, popped, rfl⟩ := popped_of_ret one
    obtain ⟨other, rest, found, rfl⟩ := popped_of_ret two
    cases popped.symm.trans found
    exact ⟨rfl, pixels, sound⟩
  -- The address is added to the one stack that both have.
  | call target =>
    obtain ⟨stack, pushed, rfl⟩ := pushed_of_call one
    obtain ⟨rest, found, rfl⟩ := pushed_of_call two
    cases pushed.symm.trans found
    exact ⟨rfl, pixels, sound⟩
  -- The digits go to the same place, as do the registers of a store and the bytes of a load.
  | digits x =>
    obtain ⟨-, rfl⟩ := ok_of_digits one
    obtain ⟨-, rfl⟩ := ok_of_digits two
    exact ⟨rfl, pixels, sound⟩
  | store last =>
    obtain ⟨-, rfl⟩ := ok_of_store one
    obtain ⟨-, rfl⟩ := ok_of_store two
    exact ⟨rfl, pixels, sound⟩
  | load last =>
    obtain ⟨-, rfl⟩ := ok_of_load one
    obtain ⟨-, rfl⟩ := ok_of_load two
    exact ⟨rfl, pixels, sound⟩
  -- Whether a word is passed over depends on registers and keys.
  | skipIfByte _ _ | skipUnlessByte _ _ | skipIfEqual _ _ | skipUnlessEqual _ _ | skipIfDown _
  | skipUnlessDown _ =>
    rw [Attempt.ok_of_modify one, Attempt.ok_of_modify two]
    exact skips _
  -- The wait looks at the keys, which are the same ones.
  | awaitKey x =>
    rw [Attempt.ok_of_modify one, Attempt.ok_of_modify two]
    dsimp only
    cases first.keypad.first? <;> exact ⟨rfl, pixels, sound⟩
  -- The other instructions change a part that both have in common.
  | _ =>
    rw [Attempt.ok_of_modify one, Attempt.ok_of_modify two]
    exact ⟨rfl, pixels, sound⟩

end Operation

/-- No cycle and no request looks at what is put out. -/
theorem Hardware.simulation_concurs (lasting : Lasting sounds) :
    Simulation (Concurs sounds) where
  counter kept := by rw [kept.others]
  memory kept := by rw [kept.others]
  passed kept := kept.change Hardware.passed fun _ _ _ => rfl
  effect kept operation :=
    Operation.endAlike_effect kept (operation.obstacle_of_concurs kept)
      fun _ _ one two => Operation.concurs_of_effect lasting kept one two
  tick kept := by
    -- The timers tick on their own, and the screens are left as they are.
    refine ⟨?_, kept.pixels, lasting.tick kept.sound⟩
    rw [kept.others]
    rfl
  keys kept event :=
    kept.change (fun hardware => { hardware with keypad := hardware.keypad.apply event })
      fun _ _ _ => rfl
  screen kept event := kept.apply event
  reset kept := by
    -- A reset leaves nothing of what was put out, so that there is no difference left.
    have random := congrArg Hardware.random kept.others
    have slots := congrArg (fun hardware => hardware.stack.slots) kept.others
    rw [reset_eq_of_random_eq random slots]
    exact .refl lasting _
  given kept memory := kept.change (fun hardware => { hardware with memory }) fun _ _ _ => rfl

/-- The second list is the first one, element by element as related, with further elements put in
anywhere. -/
inductive Interspersed {α : Type} (related : α → α → Prop) (further : α → Prop) :
    List α → List α → Prop
  /-- Nothing is put into nothing. -/
  | nil : Interspersed related further [] []
  /-- Both lists go on with related elements. -/
  | both {first second : α} {plain more : List α} (alike : related first second)
    (rest : Interspersed related further plain more) :
    Interspersed related further (first :: plain) (second :: more)
  /-- A further element is put in. -/
  | further {element : α} {plain more : List α} (extra : further element)
    (rest : Interspersed related further plain more) :
    Interspersed related further plain (element :: more)

namespace Machine

/-- The requests made of a machine, each with its reply. -/
def exchanges (machine : Machine) (events : List Event) : List (Event × Reply) :=
  events.zip (machine.replies events)

/-- The same is asked and answered, and the machines differ at most in the redraw flag. -/
def SameButFlag (first second : Event × Reply) : Prop :=
  first.1 = second.1 ∧ first.2.Alike (Hardware.Concurs Eq) second.2

/-- The machine is told that its screen has been shown and says nothing. -/
def OnlyShows (exchange : Event × Reply) : Prop :=
  exchange.1 = .screen .markShown ∧ exchange.2.outcome = .done ∧ exchange.2.journal = []

variable {first second : Machine}

/-- It makes no more than a difference to the redraw flag that the screen is noted to have been
shown. -/
theorem Alike.markShown (alike : Alike (Hardware.Concurs Eq) first second) :
    Alike (Hardware.Concurs Eq) first (second.setScreen .markShown) := by
  obtain ⟨⟨others, pixels, sound⟩, run⟩ := alike
  refine ⟨⟨?_, pixels, sound⟩, run⟩
  -- All that is replaced is the screen, which was allowed to differ.
  exact congrArg
    (fun hardware => { hardware with screen := second.hardware.screen.markShown }) others

/-- Further notes that the screen has been shown change nothing about the other exchanges. -/
theorem Alike.exchanges {plain shown : List Event}
    (interspersed : Interspersed Eq (· = .screen .markShown) plain shown)
    (alike : Alike (Hardware.Concurs Eq) first second) :
    Interspersed SameButFlag OnlyShows (first.exchanges plain) (second.exchanges shown) := by
  -- Behind every pair of requests and behind every note the machines are alike again.
  induction interspersed generalizing first second with
  | nil => exact .nil
  -- The same request is answered alike, so what follows is asked of machines that are alike.
  | @both event _ _ _ same rest ih =>
    subst same
    have reply := alike.apply (Hardware.simulation_concurs lasting_eq) event
    exact .both ⟨rfl, reply⟩ (ih reply.machine)
  -- A note that only the second machine receives leaves it alike to the first.
  | further note rest ih =>
    subst note
    exact .further ⟨rfl, rfl, rfl⟩ (ih alike.markShown)

/-- Nor do they make more than that difference to the machine in the end, or any to the journal. -/
theorem Alike.applyAll {plain shown : List Event}
    (interspersed : Interspersed Eq (· = .screen .markShown) plain shown)
    (alike : Alike (Hardware.Concurs Eq) first second) :
    Alike (Hardware.Concurs Eq) (first.applyAll plain).2.1 (second.applyAll shown).2.1 ∧
      (first.applyAll plain).2.2 = (second.applyAll shown).2.2 := by
  -- Where a request is made of both the journals gain the same.
  induction interspersed generalizing first second with
  | nil => exact ⟨alike, rfl⟩
  | @both event _ _ _ same rest ih =>
    subst same
    have reply := alike.apply (Hardware.simulation_concurs lasting_eq) event
    obtain ⟨final, lines⟩ := ih reply.machine
    simp only [Machine.applyAll, reply.journal, lines]
    exact ⟨final, trivial⟩
  | further note rest ih =>
    -- The note itself adds nothing to the journal.
    subst note
    exact ih alike.markShown

/--
Sound and redraw flag have no influence on anything else.

Machines that differ in nothing but these are told apart by no request, whatever comes after it, and
differ in nothing else for good. A host may therefore note at any point of a run that it has shown
the screen, which makes no difference to anything but the flag.
-/
theorem output_has_no_influence :
    (∀ first second : Machine, Alike (Hardware.Concurs fun _ _ => True) first second →
      ∀ events : List Event,
        List.Forall₂ (Reply.Alike (Hardware.Concurs fun _ _ => True))
          (first.replies events) (second.replies events)) ∧
    ∀ (machine : Machine) (plain shown : List Event),
      Interspersed Eq (· = .screen .markShown) plain shown →
        Interspersed SameButFlag OnlyShows (machine.exchanges plain) (machine.exchanges shown) ∧
        Alike (Hardware.Concurs Eq) (machine.applyAll plain).2.1 (machine.applyAll shown).2.1 ∧
        (machine.applyAll plain).2.2 = (machine.applyAll shown).2.2 := by
  constructor
  · -- The sound timers may hold what they like, so the machines concur however they sound.
    intro first second alike events
    exact alike.replies (Hardware.simulation_concurs lasting_any) events
  · intro machine plain shown interspersed
    -- Without any further note the machine is the same one.
    have same : Alike (Hardware.Concurs Eq) machine machine := ⟨.refl lasting_eq _, rfl⟩
    exact ⟨same.exchanges interspersed, same.applyAll interspersed⟩

/-- A program that sets its sound timer and darkens the screen goes on alike whether or not there is
a sound already and the screen has been shown. -/
theorem output_has_no_influence_on_beep :
    ∃ quiet loud : Machine, quiet.sounding = false ∧ loud.sounding = true ∧
      quiet.hardware.screen.redraw = true ∧ loud.hardware.screen.redraw = false ∧
      List.Forall₂ (Reply.Alike (Hardware.Concurs fun _ _ => True))
        (quiet.replies [.frame 2, .tick, .step, .step, .reset])
        (loud.replies [.frame 2, .tick, .step, .step, .reset]) ∧
      Interspersed SameButFlag OnlyShows (quiet.exchanges [.frame 2, .tick, .step])
        (quiet.exchanges
          [.screen .markShown, .frame 2, .tick, .screen .markShown, .screen .markShown, .step]) := by
  -- Both machines run the same program, one of them while it sounds and after it has been shown.
  let quiet : Machine := ((powerOn 0).load [0x60, 0x05, 0xF0, 0x18, 0x00, 0xE0]).machine
  let loud : Machine := { quiet with
    hardware.sound := 9
    hardware.screen := quiet.hardware.screen.markShown }
  obtain ⟨unheard, unseen⟩ := output_has_no_influence
  have ⟨silence, flag⟩ :
      quiet.sounding = false ∧ quiet.hardware.screen.redraw = true := by decide +kernel
  have alike : Alike (Hardware.Concurs fun _ _ => True) quiet loud :=
    ⟨⟨rfl, fun _ _ => rfl, trivial⟩, rfl⟩
  -- Two notes stand before a request of the plain list and two behind it, which is where they may.
  refine ⟨quiet, loud, silence, rfl, flag, rfl, unheard quiet loud alike _, ?_⟩
  refine (unseen quiet _ _ ?_).1
  exact .further rfl (.both rfl (.both rfl (.further rfl (.further rfl (.both rfl .nil)))))

end Machine

end ChipEight
