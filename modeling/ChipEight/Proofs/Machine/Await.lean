import Mathlib.Algebra.Ring.Nat
import ChipEight.Proofs.Machine.Cycle
import ChipEight.Proofs.Machine.Latch
import ChipEight.Proofs.Operation.Code

/-! A machine that waits for a key repeats itself without a trace but for its journal, until a cycle
finds a key down. -/

namespace ChipEight

namespace Hardware

/-- A whole word at the program counter spells the wait for a key into a register. -/
structure Awaits (hardware : Hardware) (x : Register) : Prop where
  /-- There is room for the word. -/
  room : hardware.pc.toNat < 0x0FFF
  /-- It is the one of the wait. -/
  spelt : hardware.wordAhead.toNat = 0xF00A + 0x100 * x.val

/-- What is said in the journal about each turn of the wait. -/
def awaiting (hardware : Hardware) (x : Register) : JournalEntry :=
  .executing hardware.pc hardware.wordAhead (.awaitKey x)

/-- The hardware after a turn of the wait, which takes the lowest key that is down if there is
one. -/
def heeded (hardware : Hardware) (x : Register) : Hardware :=
  match hardware.keypad.first? with
  | some key => hardware.passed.setRegister x (UInt8.ofNat key.val)
  | none => hardware

/-- What a host does by itself neither moves the counter nor changes the word there. -/
theorem Awaits.hosted {hardware : Hardware} {x : Register} (awaits : hardware.Awaits x)
    (event : Machine.Event) : (hardware.hosted event).Awaits x := by
  -- Of all that a host changes alone, neither the memory nor the counter is a part.
  cases event <;> exact ⟨awaits.room, awaits.spelt⟩

/-- Nor do several requests, as far as a host can meet them by itself. -/
theorem Awaits.foldl_hosted {hardware : Hardware} {x : Register} (awaits : hardware.Awaits x)
    (events : List Machine.Event) : (events.foldl Hardware.hosted hardware).Awaits x := by
  -- Each request leaves the machine at the wait, so the next one finds it there.
  induction events generalizing hardware with
  | nil => exact awaits
  | cons event rest ih => exact ih (awaits.hosted event)

/-- What is said about the wait does not change with them either. -/
theorem awaiting_hosted (hardware : Hardware) (x : Register) (event : Machine.Event) :
    (hardware.hosted event).awaiting x = hardware.awaiting x := by
  -- The entry is made of the counter and the word there, which the host does not touch.
  cases event <;> rfl

end Hardware

namespace Machine

/-- How many cycles a request asks for. -/
def Event.cycleCount : Event → Nat
  | .step => 1
  | .frame count => count
  | _ => 0

/-- What a host may ask of a machine without ending its wait for a key. -/
inductive KeepsWaiting : Keypad → List Event → Prop
  /-- The host asks for nothing more. -/
  | nil {keypad : Keypad} : KeepsWaiting keypad []
  /-- Cycles are asked for while no key is down. -/
  | cycles {keypad : Keypad} {event : Event} {rest : List Event} (asks : event.cycles = true)
    -- A request for cycles is the only one that needs the keys up, at the moment it is made.
    (up : ∀ key, keypad.isDown key = false) (later : KeepsWaiting keypad rest) :
    KeepsWaiting keypad (event :: rest)
  /-- Keys may go down and up again in between. -/
  | keys {keypad : Keypad} {change : Keypad.Event} {rest : List Event}
    (later : KeepsWaiting (keypad.apply change) rest) : KeepsWaiting keypad (.keys change :: rest)
  /-- The timers may tick. -/
  | tick {keypad : Keypad} {rest : List Event} (later : KeepsWaiting keypad rest) :
    KeepsWaiting keypad (.tick :: rest)
  /-- The screen may be shown. -/
  | shown {keypad : Keypad} {rest : List Event} (later : KeepsWaiting keypad rest) :
    KeepsWaiting keypad (.screen .markShown :: rest)

variable {hardware : Hardware} {x : Register}

/-- A step is a turn of the wait. -/
theorem step_of_awaits (awaits : hardware.Awaits x) :
    step ⟨hardware, .running⟩ =
      (⟨hardware.heeded x, .running⟩, [hardware.awaiting x]) := by
  have read : Operation.decode hardware.wordAhead = .ok (.awaitKey x) :=
    (Operation.decode_eq_ok_iff ..).mpr awaits.spelt.symm
  -- Going back by a word cancels the fetch, at whichever address.
  have rewound : { hardware.passed with pc := hardware.passed.pc - 2 } = hardware := by
    have back : hardware.pc + 2 - 2 = hardware.pc := UInt16.add_sub_cancel ..
    simp only [Hardware.passed, back]
  -- The effect goes back by a word only if no key is found, and then lands where the fetch began.
  have carriedOut : (Operation.awaitKey x).effect.run hardware.passed =
      .ok () (hardware.heeded x) := by
    show EStateM.Result.ok () (match hardware.keypad.first? with | some key => _ | none => _) = _
    rw [rewound]
    rfl
  exact advance_of_carriedOut awaits.room read carriedOut

/-- Without a key a step leaves everything as it is. -/
theorem step_of_no_key (awaits : hardware.Awaits x)
    (up : ∀ key, hardware.keypad.isDown key = false) :
    step ⟨hardware, .running⟩ = (⟨hardware, .running⟩, [hardware.awaiting x]) := by
  -- No lowest key is found, and the other branch gives the hardware back.
  rw [step_of_awaits awaits, Hardware.heeded, (hardware.keypad.first?_eq_none_iff).mpr up]

/-- Without a key a frame repeats the wait for as many cycles as it has. -/
theorem frame_of_no_key (awaits : hardware.Awaits x)
    (up : ∀ key, hardware.keypad.isDown key = false) (count : Nat) :
    frame ⟨hardware, .running⟩ count =
      (⟨hardware, .running⟩, List.replicate count (hardware.awaiting x)) := by
  -- Each cycle ends where it began, so the next one is the same again.
  induction count with
  | zero => rfl
  | succ count ih => simp only [frame_succ, step_of_no_key awaits up, ih, List.replicate_succ,
      List.singleton_append]

/-- Without a key a request for cycles is met by the wait alone. -/
theorem apply_of_no_key (awaits : hardware.Awaits x)
    (up : ∀ key, hardware.keypad.isDown key = false) {event : Event}
    (asks : event.cycles = true) :
    (apply ⟨hardware, .running⟩ event).machine = ⟨hardware.hosted event, .running⟩ ∧
      (apply ⟨hardware, .running⟩ event).journal =
        List.replicate event.cycleCount (hardware.awaiting x) := by
  -- Only steps and frames ask for cycles, and the host has no part in either.
  cases event with
  | step => simp only [apply, step_of_no_key awaits up, Hardware.hosted, Event.cycleCount,
      List.replicate_one, and_self]
  | frame count => simp only [apply, frame_of_no_key awaits up, Hardware.hosted, Event.cycleCount,
      and_self]
  | _ => cases asks

/-- What the wait makes of the first request and of the others behind it is what it makes of all. -/
theorem applyAll_cons_of_awaiting {event : Event} {rest : List Event}
    (first : (apply ⟨hardware, .running⟩ event).machine = ⟨hardware.hosted event, .running⟩ ∧
      (apply ⟨hardware, .running⟩ event).journal =
        List.replicate event.cycleCount (hardware.awaiting x))
    (others : (applyAll ⟨hardware.hosted event, .running⟩ rest).2 =
      (⟨rest.foldl Hardware.hosted (hardware.hosted event), .running⟩,
        List.replicate (rest.map Event.cycleCount).sum ((hardware.hosted event).awaiting x))) :
    (applyAll ⟨hardware, .running⟩ (event :: rest)).2 =
      (⟨(event :: rest).foldl Hardware.hosted hardware, .running⟩,
        List.replicate ((event :: rest).map Event.cycleCount).sum (hardware.awaiting x)) := by
  -- The second journal speaks of the same entry, so the two repetitions join into one.
  simp only [applyAll, first, others, hardware.awaiting_hosted, List.foldl_cons, List.map_cons,
    List.sum_cons, List.replicate_append_replicate]

/-- A host that keeps a machine waiting finds what it has done itself and one entry in the journal
for each cycle. -/
theorem applyAll_of_keepsWaiting (awaits : hardware.Awaits x) {events : List Event}
    (waits : KeepsWaiting hardware.keypad events) :
    (applyAll ⟨hardware, .running⟩ events).2 =
      (⟨events.foldl Hardware.hosted hardware, .running⟩,
        List.replicate (events.map Event.cycleCount).sum (hardware.awaiting x)) := by
  generalize keys : hardware.keypad = keypad at waits
  -- The rest is asked for with the keys as the first request leaves them.
  induction waits generalizing hardware with
  -- Nothing is asked for, and nothing is said.
  | nil => rfl
  | @cycles keypad event rest asks up later ih =>
    subst keys
    -- A request for cycles is none about keys.
    have untouched : (hardware.hosted event).keypad = hardware.keypad := by
      cases event <;> first | rfl | cases asks
    exact applyAll_cons_of_awaiting (apply_of_no_key awaits up asks)
      (ih (awaits.hosted event) untouched)
  -- The others need no cycle, so what they do is what the host does by itself.
  | @keys keypad change rest later ih =>
    subst keys
    exact applyAll_cons_of_awaiting ⟨rfl, rfl⟩ (ih (awaits.hosted (.keys change)) rfl)
  | tick later ih => exact applyAll_cons_of_awaiting ⟨rfl, rfl⟩ (ih (awaits.hosted .tick) keys)
  | shown later ih =>
    exact applyAll_cons_of_awaiting ⟨rfl, rfl⟩ (ih (awaits.hosted (.screen .markShown)) keys)

/-- Where a key is down a step takes the lowest one to the register and goes on behind the wait. -/
theorem step_of_key (awaits : hardware.Awaits x) {pressed : Key}
    (down : hardware.keypad.isDown pressed = true) :
    ∃ key, hardware.keypad.isDown key = true ∧
      (∀ other, hardware.keypad.isDown other = true → key ≤ other) ∧
      step ⟨hardware, .running⟩ =
        (⟨hardware.passed.setRegister x (UInt8.ofNat key.val), .running⟩,
          [hardware.awaiting x]) := by
  -- The search through the keys decides, and it must find one because one is down.
  cases lowest : hardware.keypad.first? with
  | none =>
    -- Finding none would mean that the given key is up.
    have up := (hardware.keypad.first?_eq_none_iff).mp lowest pressed
    rw [down] at up
    cases up
  | some key =>
    obtain ⟨found, below⟩ := (hardware.keypad.first?_eq_some_iff key).mp lowest
    refine ⟨key, found, ?_, ?_⟩
    · -- The search goes upwards, so that every key below the one that is found is up.
      intro other held
      refine Fin.not_lt.mp fun less => ?_
      rw [below other less] at held
      cases held
    · rw [step_of_awaits awaits, Hardware.heeded, lowest]

/-- A host that keeps a machine waiting does nothing to its screen but show it. -/
theorem KeepsWaiting.undrawn {keypad : Keypad} {events : List Event}
    (waits : KeepsWaiting keypad events) (change : Screen.Event)
    (listed : .screen change ∈ events) : change = .markShown := by
  -- Only the last kind of request is about the screen at all.
  induction waits with
  | nil => cases listed
  | @cycles keypad event rest asks up later ih =>
    rcases List.mem_cons.mp listed with rfl | behind
    · -- A request about the screen asks for no cycles.
      cases asks
    · exact ih behind
  | keys later ih => exact ih (by simpa using listed)
  | tick later ih => exact ih (by simpa using listed)
  | shown later ih =>
    rcases List.mem_cons.mp listed with same | behind
    · cases same
      rfl
    · exact ih behind

/-- Whenever a host that keeps a machine waiting asks for cycles, the keys are up as it has left
them. -/
theorem KeepsWaiting.up_at_last {keypad : Keypad} {earlier : List Event} {last : Event}
    (waits : KeepsWaiting keypad (earlier ++ [last])) (asks : last.cycles = true) (key : Key) :
    (((earlier ++ [last]).filterMap Event.key?).foldl Keypad.apply keypad).isDown key = false := by
  -- Requests for cycles change no key, so that the keys are those before the last request.
  have silent {event : Event} (asks : event.cycles = true) : event.key? = none := by
    cases event <;> first | rfl | cases asks
  -- The keys are followed through the earlier requests, and the last one demands them up.
  induction earlier generalizing keypad with
  | nil =>
    -- What keeps the machine waiting here is a request for cycles, which is made with all keys up.
    cases waits with
    | cycles _ up _ => simpa [silent asks] using up key
    | _ => cases asks
  | cons event rest ih =>
    cases waits with
    | cycles asksToo _ later => simpa [silent asksToo] using ih later
    | keys later => exact ih later
    | tick later => exact ih later
    | shown later => exact ih later

/-- What becomes of a machine that waits for a key as long as its host keeps it waiting. -/
structure StillWaits (hardware : Hardware) (x : Register) (events : List Event)
    (result : Machine × Journal) : Prop where
  /-- It runs. -/
  run : result.1.run = .running
  /-- Nothing has changed but timers, keys and screen, as the host had it, so that the program
  counter is still at the wait. -/
  hosted : hardware.Hosted result.1.hardware events
  /-- After a cycle all keys are as they were. -/
  keypad : ∀ earlier last, events = earlier ++ [last] → last.cycles = true →
    result.1.hardware.keypad = hardware.keypad
  /-- Not a single pixel of the screen has changed. -/
  pixels : ∀ x y, result.1.hardware.screen.pixel x y = hardware.screen.pixel x y
  /-- The redraw flag is up if it was before and the screen has not been shown. -/
  redraw : result.1.hardware.screen.redraw = true ↔
    hardware.screen.redraw = true ∧ .screen .markShown ∉ events
  /-- The journal has gained one and the same entry for each cycle. -/
  journal : result.2 = List.replicate (events.map Event.cycleCount).sum (hardware.awaiting x)

/-- A machine that its host keeps waiting still waits. -/
theorem stillWaits (awaits : hardware.Awaits x) (up : ∀ key, hardware.keypad.isDown key = false)
    {events : List Event} (waits : KeepsWaiting hardware.keypad events) :
    StillWaits hardware x events (applyAll ⟨hardware, .running⟩ events).2 := by
  have hosted := Hardware.Hosted.foldl hardware events
  -- Showing the screen is all that is done to it, and that changes no pixel.
  obtain ⟨pixels, redraw⟩ := hosted.shown waits.undrawn
  rw [applyAll_of_keepsWaiting awaits waits]
  refine ⟨rfl, hosted, ?_, pixels, redraw, rfl⟩
  -- Before the cycle all keys were up, and at the beginning they were so as well.
  rintro earlier last rfl asks
  refine Keypad.ext fun key => ?_
  rw [hosted.keypad, waits.up_at_last asks key, up key]

/-- What a step leaves that has found a key while it waited for one. -/
structure TakesKey (before : Hardware) (x : Register) (key : Key) (reply : Reply) : Prop where
  /-- The key is down. -/
  down : before.keypad.isDown key = true
  /-- No lower one is. -/
  lowest : ∀ other, before.keypad.isDown other = true → key ≤ other
  /-- The machine runs on. -/
  run : reply.machine.run = .running
  /-- The number of the key is in the register. -/
  register : (reply.machine.hardware.register x).toNat = key.val
  /-- All other registers are as before. -/
  registers : ∀ other ≠ x, reply.machine.hardware.register other = before.register other
  /-- The program goes on behind the wait. -/
  pc : reply.machine.hardware.pc.toNat = before.pc.toNat + 2
  /-- Nothing else has changed. -/
  kept : reply.machine.hardware = { before with
    pc := reply.machine.hardware.pc, registers := reply.machine.hardware.registers }
  /-- The journal has gained the entry of the wait. -/
  journal : reply.journal = [before.awaiting x]

/-- Where a key is down a step ends the wait. -/
theorem takesKey (awaits : hardware.Awaits x) {pressed : Key}
    (down : hardware.keypad.isDown pressed = true) :
    ∃ key, TakesKey hardware x key (apply ⟨hardware, .running⟩ .step) := by
  obtain ⟨key, found, lowest, taken⟩ := step_of_key awaits down
  -- A number of a key fits into a register.
  have small : key.val < 256 := by omega
  refine ⟨key, ?_⟩
  simp only [apply, taken]
  exact
    { down := found
      lowest := lowest
      run := rfl
      register := by
        rw [Hardware.register, Hardware.setRegister, Registers.read_write_self]
        exact UInt8.toNat_ofNat_of_lt' small
      registers := fun other apart => Registers.read_write_of_ne _ _ (Ne.symm apart)
      pc := Hardware.toNat_pc_passed awaits.room
      kept := rfl
      journal := rfl }

/-- A machine whose program has come to the wait for a key while none is down repeats it with every
cycle and changes by nothing but what its host does to timers, keys and screen meanwhile. The first
step to find a key down takes the lowest one and goes on. -/
theorem wait_for_key_repeats_itself (awaits : hardware.Awaits x)
    (up : ∀ key, hardware.keypad.isDown key = false) (events : List Event)
    (waits : KeepsWaiting hardware.keypad events) :
    let result := (applyAll ⟨hardware, .running⟩ events).2
    StillWaits hardware x events result ∧
      ∀ pressed, result.1.hardware.keypad.isDown pressed = true →
        ∃ key, TakesKey result.1.hardware x key (result.1.apply .step) := by
  intro result
  refine ⟨stillWaits awaits up waits, fun pressed down => ?_⟩
  -- What the host has left still stands at the wait, so that the next step is a turn of it.
  have left : result.1 = ⟨events.foldl Hardware.hosted hardware, .running⟩ :=
    congrArg Prod.fst (applyAll_of_keepsWaiting awaits waits)
  rw [left] at down ⊢
  exact takesKey (awaits.foldl_hosted events) down

/-- A step and three cycles of a frame wait at the first address of a program, as a key has been
lifted before each of them. Of the two keys that go down afterwards the lower one ends the wait. -/
theorem wait_for_key_repeats_itself_until_press :
    ∃ waiting : Hardware, ∃ final : Machine, ∃ journal : Journal,
      (applyAll ⟨waiting, .running⟩ [.step, .tick, .keys (.press 7), .keys (.release 7), .frame 3,
        .screen .markShown, .keys (.press 9), .keys (.press 4)]).2 = (final, journal) ∧
      journal = List.replicate 4 (.executing 0x200 0xF30A (.awaitKey 3)) ∧
      final.hardware.pc = 0x200 ∧
      ((final.apply .step).machine.hardware.register 3).toNat = 4 ∧
      (final.apply .step).machine.hardware.pc.toNat = 0x202 := by
  let waiting : Hardware := { Hardware.powerOn (Random.ofSeed 0) with
    memory := Memory.zero.overlay programStart [0xF3, 0x0A] }
  let asked : List Event := [.step, .tick, .keys (.press 7), .keys (.release 7), .frame 3,
    .screen .markShown, .keys (.press 9), .keys (.press 4)]
  -- The word of the wait lies where the program begins, and the machine starts there.
  have word : waiting.wordAhead = 0xF30A := by decide +kernel
  have awaits : waiting.Awaits 3 := ⟨by decide, by rw [word]; decide⟩
  have up : ∀ key, waiting.keypad.isDown key = false := Keypad.isDown_released
  -- The key that goes down is up again before the frame, and the two later ones stay down.
  have lifted : ∀ key,
      ((waiting.keypad.apply (.press 7)).apply (.release 7)).isDown key = false := by decide
  obtain ⟨still, ends⟩ := wait_for_key_repeats_itself awaits up asked
    (.cycles rfl up (.tick (.keys (.keys (.cycles rfl lifted (.shown (.keys (.keys .nil))))))))
  have keys : ∀ key, (applyAll ⟨waiting, .running⟩ asked).2.1.hardware.keypad.isDown key =
      decide (key = 4 ∨ key = 9) := by
    rw [still.hosted.keypad]
    decide
  obtain ⟨key, taken⟩ := ends 9 (keys 9)
  -- Of the two keys that are down the lower one is taken.
  have fourth : key = 4 := by
    have lower : ∀ key : Key, key = 4 ∨ key = 9 → key ≤ 4 → key = 4 := by decide
    have pressed := taken.down
    rw [keys key, decide_eq_true_eq] at pressed
    exact lower key pressed (taken.lowest 4 (keys 4))
  have counter := congrArg Hardware.pc still.hosted.kept
  refine ⟨waiting, (applyAll ⟨waiting, .running⟩ asked).2.1,
    (applyAll ⟨waiting, .running⟩ asked).2.2, rfl, ?_, counter, ?_, ?_⟩
  · rw [still.journal, Hardware.awaiting, word]
    rfl
  · rw [taken.register, fourth]
    rfl
  · rw [taken.pc, counter]
    rfl

end Machine

end ChipEight
