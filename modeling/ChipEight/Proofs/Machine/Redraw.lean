import ChipEight.Console
import ChipEight.Proofs.Machine.Course
import ChipEight.Proofs.Operation.Footprint

/-! The redraw flag stands for every change of the screen since the host last noted to have shown
it. -/

namespace ChipEight

namespace Operation

/-- Whether an instruction paints the screen, be it with nothing new. -/
def paints : Operation → Bool
  | clear | draw _ _ _ => true
  | _ => false

variable {operation : Operation} {before after : Hardware}

/-- An instruction that paints asks for a redraw once it has been carried out. -/
theorem redraw_of_paints (paints : operation.paints = true)
    (carriedOut : operation.effect.run before = .ok () after) : after.screen.redraw = true := by
  -- Only two instructions paint, and each of them raises the flag itself.
  cases operation with
  | clear =>
    rw [Attempt.ok_of_modify carriedOut]
    rfl
  | draw x y height =>
    -- The flag is raised whatever the sprite, even if it has no rows.
    obtain ⟨screen, collided, -, drawn, rfl⟩ := ok_of_draw carriedOut
    exact (congrArg (fun result => result.1.redraw) drawn).symm
  | _ => cases paints

/-- An instruction that does not paint leaves the screen alone. -/
theorem screen_of_not_paints (plain : operation.paints = false)
    (carriedOut : operation.effect.run before = .ok () after) : after.screen = before.screen := by
  -- Whatever is stored goes to bytes of memory, and whatever is loaded to registers.
  have elsewhere : Place.screen ∉ operation.footprint before := by
    cases operation with
    | clear | draw _ _ _ => cases plain
    | _ => simp [footprint, Place.bytes]
  have same : Place.screen.Same before after := same_of_effect carriedOut elsewhere
  exact same.symm

end Operation

namespace Machine

/-- Whether a turn paints the screen, for the program, for the host or to start another program. -/
def Turn.paints (turn : Turn) : Bool :=
  match turn.act with
  -- An instruction that fails has not been carried out, so it does not count.
  | .cycle => turn.executed?.any Operation.paints
  | .screen (.draw _ _ _) | .screen .clear => true
  -- The screen of the old program is darkened.
  | .restart | .load (.ok _) => true
  | _ => false

/-- What a turn leaves of the screen that it found. -/
inductive Turn.Leaves (turn : Turn) : Prop
  /-- Whoever paints asks for a redraw. -/
  | painted (paints : turn.paints = true) (raised : turn.left.hardware.screen.redraw = true)
  /-- The host notes that it has shown the screen. -/
  | shown (act : turn.act = .screen .markShown)
    (lowered : turn.left.hardware.screen = turn.found.hardware.screen.markShown)
  /-- Any other turn leaves the screen alone. -/
  | kept (plain : turn.paints = false) (other : turn.act ≠ .screen .markShown)
    (same : turn.left.hardware.screen = turn.found.hardware.screen)

/-- Every turn paints the screen, shows it or leaves it alone. -/
theorem Turn.leaves (turn : Turn) : turn.Leaves := by
  obtain ⟨machine, act⟩ := turn
  -- Cycles paint by their instruction, restarts by darkening the screen, and the host by itself.
  cases act with
  | cycle =>
    rcases machine.executed?_cycle with ⟨operation, after, executed, -, carriedOut, result⟩ |
      ⟨idle, unchanged⟩
    · -- The fetch has not touched the screen before the instruction is carried out.
      have asked : Turn.paints ⟨machine, .cycle⟩ = operation.paints := by
        show Option.any Operation.paints (Turn.executed? ⟨machine, .cycle⟩) = _
        rw [executed]
        rfl
      have left : (Turn.left ⟨machine, .cycle⟩).hardware = after := congrArg hardware result
      cases paints : operation.paints with
      | true =>
        refine .painted (asked.trans paints) ?_
        rw [left]
        exact Operation.redraw_of_paints paints carriedOut
      | false =>
        refine .kept (asked.trans paints) nofun ?_
        have same : after.screen = machine.hardware.passed.screen :=
          Operation.screen_of_not_paints paints carriedOut
        rw [left]
        exact same
    · -- A cycle without an instruction moves the counter at most.
      have plain : Turn.paints ⟨machine, .cycle⟩ = false := by
        show Option.any Operation.paints (Turn.executed? ⟨machine, .cycle⟩) = _
        rw [idle]
        rfl
      refine .kept plain nofun ?_
      show machine.step.1.hardware.screen = _
      rw [unchanged]
  | restart => exact .painted rfl rfl
  | load image =>
    cases image with
    | error error => exact .kept rfl nofun rfl
    | ok rom =>
      -- The reset that comes before the image has raised the flag.
      refine .painted rfl ?_
      rw [Turn.left, perform_load_ok]
      rfl
  | screen event =>
    cases event with
    | draw x y bytes => exact .painted rfl rfl
    | clear => exact .painted rfl rfl
    | markShown => exact .shown rfl rfl
  | tick | keys _ => exact .kept rfl nofun rfl

/-- The flag is up behind a turn that paints, and behind one that found it up and did not show the
screen. -/
theorem Turn.redraw_left_iff (turn : Turn) :
    turn.left.hardware.screen.redraw = true ↔
      turn.paints = true ∨
        (turn.found.hardware.screen.redraw = true ∧ turn.act ≠ .screen .markShown) := by
  -- Each of the three kinds of turns decides every part of the statement.
  cases turn.leaves with
  | painted paints raised => simp [paints, raised]
  | shown act lowered =>
    -- Showing the screen does not count as painting it.
    have plain : turn.paints = false := by rw [paints, act]
    simp [act, lowered, plain, Screen.markShown]
  | kept plain other same => simp [plain, other, same]

/-- A step behind which the machine does not run leaves the screen alone. -/
theorem screen_step_of_ne_running {machine : Machine} (stopped : machine.step.1.run ≠ .running) :
    machine.step.1.hardware.screen = machine.hardware.screen := by
  -- Whoever carries out an instruction goes on running.
  rcases machine.executed?_cycle with ⟨operation, after, -, -, -, result⟩ | ⟨-, unchanged⟩
  · exact absurd (congrArg run result) stopped
  · rw [unchanged]

/-- The screen that a turn notes to have been shown, if it does. -/
def Turn.shown? (turn : Turn) : Option Screen :=
  match turn.act with
  | .screen .markShown => some turn.found.hardware.screen
  | _ => none

/-- The screen that was shown last, or the one at the start if none has been shown since. -/
def lastShown (start : Screen) (turns : List Turn) : Screen :=
  (turns.filterMap Turn.shown?).getLast?.getD start

/-- A turn that shows the screen is the last to have done so. -/
theorem lastShown_concat_of_shown {turn : Turn} (start : Screen) (turns : List Turn)
    (act : turn.act = .screen .markShown) :
    lastShown start (turns ++ [turn]) = turn.found.hardware.screen := by
  -- A turn that shows the screen shows the one that it has found.
  have shown : turn.shown? = some turn.found.hardware.screen := by rw [Turn.shown?, act]
  simp [lastShown, List.filterMap_append, shown]

/-- A turn that does not show the screen leaves what was shown to those before it. -/
theorem lastShown_concat_of_other {turn : Turn} (start : Screen) (turns : List Turn)
    (other : turn.act ≠ .screen .markShown) :
    lastShown start (turns ++ [turn]) = lastShown start turns := by
  -- Any other turn adds nothing to the screens that were shown.
  have none : turn.shown? = none := by
    unfold Turn.shown?
    split
    · contradiction
    · rfl
  simp [lastShown, List.filterMap_append, none]

/-- As long as nobody asks for a redraw, the pixels are those that were shown last. -/
theorem pixel_of_not_redraw (machine : Machine) (acts : List Act)
    (down : (machine.performAll acts).1.hardware.screen.redraw = false) (x y : Nat) :
    (machine.performAll acts).1.hardware.screen.pixel x y =
      (lastShown machine.hardware.screen (machine.turns acts)).pixel x y := by
  -- Either the flag is up, or the screen has been left alone since it was shown.
  refine performAll_of_turn
    (fun reached past => reached.hardware.screen.redraw = false →
      reached.hardware.screen.pixel x y = (lastShown machine.hardware.screen past).pixel x y)
    (fun _ => rfl) ?_ acts down
  intro past turn holds down
  cases turn.leaves with
  -- Whoever paints raises the flag, which is down.
  | painted paints raised =>
    rw [raised] at down
    cases down
  -- The screen that was shown is the one that has its pixels now.
  | shown act lowered =>
    rw [lastShown_concat_of_shown _ _ act, lowered, Screen.pixel_markShown]
  -- What holds of the screen that was found holds of the one that is left.
  | kept plain other same =>
    rw [same] at down ⊢
    rw [lastShown_concat_of_other _ _ other]
    exact holds down

end Machine

namespace Screen

/-- A picture is that of a screen, or else the screen asks for a redraw. -/
def ShownAs (screen : Screen) (picture : List (List Char)) : Prop :=
  screen.redraw = false → picture = screen.picture

variable {picture : List (List Char)}

/-- No turn makes a picture out of date without asking for a redraw. -/
theorem ShownAs.left {turn : Machine.Turn} (shown : turn.found.hardware.screen.ShownAs picture)
    (other : turn.act ≠ .screen .markShown) : turn.left.hardware.screen.ShownAs picture := by
  intro down
  -- A turn that paints has raised the flag, and one that shows the screen is excluded.
  cases turn.leaves with
  | painted paints raised => cases down.symm.trans raised
  | shown act lowered => exact absurd act other
  | kept plain other same =>
    rw [same] at down ⊢
    exact shown down

/-- Nor does a run of turns, as long as nobody else notes that the screen has been shown. -/
theorem ShownAs.performAll {machine : Machine} (shown : machine.hardware.screen.ShownAs picture)
    {acts : List Machine.Act} (alone : Machine.Act.screen .markShown ∉ acts) :
    (machine.performAll acts).1.hardware.screen.ShownAs picture := by
  -- The first act finds the machine of the start, and the others what it leaves.
  induction acts generalizing machine with
  | nil => exact shown
  | cons act rest ih =>
    rw [List.mem_cons, not_or] at alone
    have first : (machine.perform act).1.hardware.screen.ShownAs picture :=
      @ShownAs.left picture ⟨machine, act⟩ shown (Ne.symm alone.1)
    exact ih first alone.2

/-- Only the host that is asked to lower the flag lowers it. -/
theorem markShown_notMem_acts {event : Machine.Event} (other : event ≠ .screen .markShown) :
    Machine.Act.screen .markShown ∉ event.acts := by
  -- Requests about the screen have a single act, and no other request has an act about it.
  cases event with
  | loadFile file => cases file <;> simp [Machine.Event.acts]
  | screen event =>
    simp only [Machine.Event.acts, List.mem_singleton]
    rintro ⟨⟩
    exact other rfl
  | _ => simp [Machine.Event.acts]

end Screen

namespace Console

/-- What happens to a machine in play. -/
inductive Move where
  /-- The machine meets a request. -/
  | ask (event : Machine.Event)
  /-- The picture is brought up to date if the screen asks for that. -/
  | present

/-- The session after a move. -/
def move (console : Console) : Move → Console
  | .ask event => { console with machine := (console.machine.apply event).machine }
  | .present => console.present

/-- The session after several moves, the first one first. -/
def moveAll (console : Console) (moves : List Move) : Console :=
  moves.foldl move console

variable {console : Console}

/-- A picture that is brought up to date shows the screen as it is. -/
theorem picture_present (shown : console.machine.hardware.screen.ShownAs console.picture) :
    console.present.picture = console.present.machine.hardware.screen.picture := by
  -- The picture is taken anew exactly if the flag is up.
  cases asked : console.machine.hardware.screen.redraw with
  | true =>
    -- Lowering the flag leaves the pixels alone, so that the new picture is not out of date.
    have taken : console.present =
        { console.refresh with machine := console.machine.setScreen .markShown } := if_pos asked
    rw [taken]
    rfl
  | false =>
    have kept : console.present = console := if_neg (by rw [asked]; exact Bool.false_ne_true)
    rw [kept]
    exact shown asked

/-- Whoever shows the screen when it asks for that and leaves it to itself otherwise has an
up-to-date picture unless the screen asks for another. -/
theorem shownAs_moveAll
    (shown : console.machine.hardware.screen.ShownAs console.picture) {moves : List Move}
    (alone : .ask (.screen .markShown) ∉ moves) :
    (console.moveAll moves).machine.hardware.screen.ShownAs (console.moveAll moves).picture := by
  -- The moves behind the first one find the session that it leaves.
  induction moves generalizing console with
  | nil => exact shown
  | cons move rest ih =>
    rw [List.mem_cons, not_or] at alone
    refine @ih (console.move move) ?_ alone.2
    -- Only the machine takes part in a request, and the picture only in its presentation.
    cases move with
    | ask event =>
      -- The machine meets the request by acts of its own, and the picture stays.
      have other : event ≠ .screen .markShown := fun same => alone.1 (congrArg Move.ask same.symm)
      have met := shown.performAll (Screen.markShown_notMem_acts other)
      rw [Machine.performAll_acts] at met
      exact met
    | present => exact fun _ => picture_present shown

/-- A session keeps up with the screen of its machine. -/
structure KeepsUp (console : Console) : Prop where
  /-- The picture is out of date only if the screen asks for another. -/
  between : console.machine.hardware.screen.redraw = false →
    console.picture = console.machine.hardware.screen.picture
  /-- Bringing the picture up to date does so. -/
  presented : console.present.picture = console.present.machine.hardware.screen.picture
  /-- At the end of a frame the picture is up to date. -/
  framed : console.frame.picture = console.frame.machine.hardware.screen.picture

/-- A session with a picture that is out of date only if the screen asks for another keeps up. -/
theorem keepsUp_of_shownAs (shown : console.machine.hardware.screen.ShownAs console.picture) :
    console.KeepsUp where
  between := shown
  presented := picture_present shown
  framed := by
    -- A frame presents what the machine shows once it has been asked for a tick and for its cycles.
    have asked := @shownAs_moveAll console shown
      [.ask .tick, .ask (.frame console.cyclesPerFrame)] (by simp)
    exact picture_present asked

end Console

/--
Whenever the redraw flag is down, every pixel is what it was when the host last noted to have shown
the screen.

A session that shows its machine whenever the flag is up therefore keeps up with it. The flag is up
exactly behind a turn that paints and behind one that found it up and did not show the screen. A
step that halts does not touch the screen at all, and whatever a host can ask is made of such turns.
-/
theorem redraw_misses_no_change (machine : Machine) :
    (∀ acts : List Machine.Act, (machine.performAll acts).1.hardware.screen.redraw = false →
      ∀ x y, (machine.performAll acts).1.hardware.screen.pixel x y =
        (Machine.lastShown machine.hardware.screen (machine.turns acts)).pixel x y) ∧
    (∀ (options : Options) (moves : List Console.Move), .ask (.screen .markShown) ∉ moves →
      ((Console.ofMachine machine options).moveAll moves).KeepsUp) ∧
    (∀ turn : Machine.Turn, turn.left.hardware.screen.redraw = true ↔
      turn.paints = true ∨
        (turn.found.hardware.screen.redraw = true ∧ turn.act ≠ .screen .markShown)) ∧
    (∀ found : Machine, found.step.1.run ≠ .running →
      found.step.1.hardware.screen = found.hardware.screen) ∧
    ∀ events : List Machine.Event,
      (machine.applyAll events).2 = machine.performAll (events.flatMap Machine.Event.acts) := by
  refine ⟨machine.pixel_of_not_redraw, ?_, Machine.Turn.redraw_left_iff,
    fun found => Machine.screen_step_of_ne_running, machine.applyAll_eq_performAll⟩
  intro options moves alone
  -- The first picture has been taken of the screen at the start.
  have start : (Console.ofMachine machine options).machine.hardware.screen.ShownAs
    (Console.ofMachine machine options).picture := fun _ => rfl
  exact Console.keepsUp_of_shownAs (Console.shownAs_moveAll start alone)

/-- A program draws a glyph, which is shown, and then fails to draw beyond memory. The flag stays
down behind the failure, and the glyph stays on the screen. -/
theorem redraw_misses_no_change_of_glyph :
    ∃ (image : Rom) (acts : List Machine.Act) (found : Machine),
      acts = [.load (.ok image), .cycle, .cycle, .screen .markShown, .cycle] ∧
      found = ((Machine.powerOn 0).performAll acts).1 ∧
      found.hardware.screen.pixel 0 0 = true ∧
      found.hardware.screen.pixel 0 0 =
        (Machine.lastShown Screen.blank ((Machine.powerOn 0).turns acts)).pixel 0 0 ∧
      found.hardware.instruction? = some (.draw 0 0 2) ∧
      found.step.1.hardware.screen = found.hardware.screen ∧
      ((Console.ofMachine (Machine.powerOn 0) ⟨"glyph", 60, 700, none⟩).moveAll
        [.ask (.load image.bytes), .ask (.frame 2), .present, .ask (.frame 2)]).KeepsUp := by
  let image : Rom := ⟨[0xF0, 0x29, 0xD0, 0x05, 0xAF, 0xFF, 0xD0, 0x02], by decide⟩
  let acts : List Machine.Act :=
    [.load (.ok image), .cycle, .cycle, .screen .markShown, .cycle]
  obtain ⟨pixels, renderer, -, halting, -⟩ := redraw_misses_no_change (Machine.powerOn 0)
  -- Running the program tells that the last draw fails, and the theorem tells what is left to be
  -- seen.
  have ⟨lit, down, next, halts⟩ :
      let found := ((Machine.powerOn 0).performAll acts).1
      found.hardware.screen.pixel 0 0 = true ∧ found.hardware.screen.redraw = false ∧
        found.hardware.instruction? = some (.draw 0 0 2) ∧ found.step.1.run ≠ .running := by
    decide +kernel
  exact ⟨image, acts, _, rfl, rfl, lit, pixels acts down 0 0, next, halting _ halts,
    renderer _ _ (by simp)⟩

end ChipEight
