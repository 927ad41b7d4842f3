import ChipEight.Machine

/-! Everything that a host can ask of a machine, as one type of events with one reply each. -/

namespace ChipEight.Machine

/-- A request of the host. -/
inductive Event where
  /-- Load a program image from bytes. -/
  | load (bytes : List UInt8)
  /-- Load a program image from a source that reports its size. -/
  | loadFrom (source : Source) (reported : Nat)
  /-- Load a program image from a file, or from one that cannot be opened. -/
  | loadFile (file : Except ReadFailure File)
  /-- Go back to power-on. -/
  | reset
  /-- Carry out one cycle. -/
  | step
  /-- Carry out up to the given number of cycles. -/
  | frame (count : Nat)
  /-- Let the timers tick once. -/
  | tick
  /-- Change the keys. -/
  | keys (event : Keypad.Event)
  /-- Change the screen. -/
  | screen (event : Screen.Event)

/-- What the host is told. -/
inductive Outcome where
  /-- The request has been met. -/
  | done
  /-- Whether the machine still runs after its cycles. -/
  | running (still : Bool)
  /-- Whether a program image was loaded, and how many bytes were taken from its source. -/
  | load (result : Except Fault Unit) (consumed : Nat)

/-- A machine after a request, with what the host is told and the journal gained. -/
structure Reply where
  /-- What the host is told. -/
  outcome : Outcome
  /-- The machine afterwards. -/
  machine : Machine
  /-- What the journal gained. -/
  journal : Journal

/-- Places an image in memory if there is one, and leaves the machine alone otherwise. -/
def loadResult (machine : Machine) (image : Except LoadError Rom) (consumed : Nat) : Reply :=
  -- Without an image nothing is reset, and what was consumed is told all the same.
  match image with
  | .error error => ⟨.load (.error (.unloadable error)) consumed, machine, []⟩
  | .ok rom =>
    let (result, loaded, journal) := machine.insert rom
    ⟨.load result consumed, loaded, journal⟩

/-- Loads a program image from bytes. -/
def load (machine : Machine) (bytes : List UInt8) : Reply :=
  machine.loadResult (Rom.ofBytes bytes) bytes.length

/-- Loads a program image from a source that reports its size. -/
def loadFrom (machine : Machine) (source : Source) (reported : Nat) : Reply :=
  let (image, consumed) := Rom.ofSource source reported
  machine.loadResult image consumed

/-- Loads a program image from a file with the size that the system reports for it. -/
def loadFile (machine : Machine) (file : Except ReadFailure File) : Reply :=
  match file with
  -- What cannot be opened hands out nothing.
  | .error failure => machine.loadResult (.error (.unreadable failure)) 0
  | .ok opened => machine.loadFrom opened.source opened.reported

/-- Meets a request of the host. -/
def apply (machine : Machine) : Event → Reply
  | .load bytes => machine.load bytes
  | .loadFrom source reported => machine.loadFrom source reported
  | .loadFile file => machine.loadFile file
  | .reset =>
    let (fresh, journal) := machine.reset
    ⟨.done, fresh, journal⟩
  | .step =>
    let (next, journal) := machine.step
    ⟨.running next.run.isRunning, next, journal⟩
  | .frame count =>
    let (next, journal) := machine.frame count
    ⟨.running next.run.isRunning, next, journal⟩
  | .tick => ⟨.done, machine.tick, []⟩
  | .keys event => ⟨.done, machine.setKeys event, []⟩
  | .screen event => ⟨.done, machine.setScreen event, []⟩

/-- Meets several requests one after the other, collecting outcomes and journal. -/
def applyAll (machine : Machine) : List Event → List Outcome × Machine × Journal
  | [] => ([], machine, [])
  | event :: rest =>
    let reply := machine.apply event
    let (outcomes, final, journal) := reply.machine.applyAll rest
    (reply.outcome :: outcomes, final, reply.journal ++ journal)

end ChipEight.Machine
