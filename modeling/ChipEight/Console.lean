import ChipEight.Keyboard
import ChipEight.Machine.Event
import ChipEight.Rom.Name
import ChipEight.Options
import ChipEight.Terminal.Strip

/-! A session at the terminal, namely a machine with its options and the picture last shown. -/

namespace ChipEight

/-- A machine in play. -/
structure Console where
  /-- The machine. -/
  machine : Machine
  /-- What the player chose. -/
  options : Options
  /-- The name of the program image. -/
  name : String
  /-- The picture last taken of the screen. -/
  picture : List (List Char)

/-- A program image that could not be loaded at the start of a session. -/
structure LoadFailure where
  /-- The path of the image. -/
  path : String
  /-- Why it could not be loaded. -/
  cause : Fault
deriving DecidableEq, Repr

/-- What went wrong, from the request down to its deepest cause. -/
def LoadFailure.messages (failure : LoadFailure) : List String :=
  ("could not load ROM " ++ failure.path) :: failure.cause.chain

namespace Console

/-- The session of a machine that has its program image in place. -/
def ofMachine (machine : Machine) (options : Options) : Console where
  machine
  options
  name := Rom.name options.rom
  picture := machine.hardware.screen.picture

/-- Starts a session with the chosen file, or with the failure to open it, where `chance` stands in
for a seed that was not chosen. -/
def start (options : Options) (chance : UInt64) (file : Except ReadFailure File) :
    Except LoadFailure Console :=
  let reply := (Machine.powerOn (options.seed.getD chance)).loadFile file
  -- Only a failed load keeps a session from beginning.
  match reply.outcome with
  | .load (.error cause) _ => .error ⟨options.rom, cause⟩
  | _ => .ok (ofMachine reply.machine options)

/-- The number of cycles in a frame, none at a frame rate that no command line admits. -/
def cyclesPerFrame (console : Console) : Nat :=
  match console.options.cyclesPerFrame with
  | .ok count => count.toNat
  | .error _ => 0

/-- Lets the timers tick once. -/
def tick (console : Console) : Console :=
  { console with machine := console.machine.tick }

/-- Carries out the cycles of one frame. -/
def run (console : Console) : Console :=
  { console with machine := (console.machine.frame console.cyclesPerFrame).1 }

/-- Changes the keys of the machine. -/
def setKeys (console : Console) (event : Keypad.Event) : Console :=
  { console with machine := console.machine.setKeys event }

/-- Takes a new picture of the screen. -/
def refresh (console : Console) : Console :=
  { console with picture := console.machine.hardware.screen.picture }

/-- Takes a new picture and notes that it has been shown, if the screen asks for that. -/
def present (console : Console) : Console :=
  if console.machine.hardware.screen.redraw then
    let shown := console.refresh
    { shown with machine := shown.machine.setScreen .markShown }
  else console

/-- The session one frame later. -/
def frame (console : Console) : Console :=
  console.tick.run.present

/-- The name of the image, with the fault that halted it or a note while it sounds. -/
def title (console : Console) : String :=
  match console.machine.run with
  | .halted fault => console.name ++ " [halted: " ++ fault.message ++ "]"
  | .running =>
    if console.machine.sounding then console.name ++ " ♪" else console.name

/-- The rectangle of the screen's box, in the middle of a terminal that is wider. -/
def gameArea (width : Nat) : Terminal.Area where
  -- Half of the spare columns are on the left, and the odd one with them.
  left := if 66 < width then (width - 66 + 1) / 2 else 0
  top := 0
  width := min width 66
  height := 34

/-- The rectangle of the keyboard's box, below that of the screen. -/
def legendArea (width : Nat) : Terminal.Area where
  left := 0
  top := 34
  width := width
  height := 7

/-- The colour of the screen's box, which tells whether the machine runs. -/
def gameColour (console : Console) : Terminal.Colour :=
  if console.machine.run.isRunning then .white else .red

/-- All that is shown on a terminal of the given width, the foremost first. -/
def layers (console : Console) (width : Nat) : List Terminal.Layer :=
  let game := gameArea width
  let legend := legendArea width
  -- The title stands on the upper side of the border and hides it.
  [ .strip game.heading (.ofTitle console.gameColour game.heading.width console.title.toList),
    .border game console.gameColour,
    .text game.inner .white console.picture,
    .text legend.heading .yellow ["Keypad".toList],
    .border legend .yellow,
    .centred legend.inner .yellow (Keyboard.legend.map String.toList) ]

end Console

end ChipEight
