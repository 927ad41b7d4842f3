import ChipEight.Launch

/-! The program at a terminal, which reads a file, and then plays frame after frame. -/

namespace ChipEight.Terminal

/-- The file of a path with its bytes, or why they cannot be had. -/
def readFile (path : String) : IO (Except ReadFailure File) := do
  try
    return .ok (File.holding (← IO.FS.readBinFile path).toList)
  catch
    | .noFileOrDirectory .. => return .error .missing
    | error => return .error (.failed (toString error))

/-- The stroke that a byte typed at a terminal stands for. -/
def strokeOfByte (byte : UInt8) : Keyboard.Stroke :=
  if byte = 0x1B then { code := .escape, control := false }
  else if byte = 0x03 then { code := .character 'c', control := true }
  else { code := .character (Char.ofUInt8 byte), control := false }

/-- Collects what is typed until the input ends, which counts as escape. -/
partial def listen (input : IO.FS.Stream) (typed : IO.Ref (List Keyboard.Stroke)) : IO Unit := do
  let bytes ← input.read 1
  if bytes.isEmpty then
    typed.modify (· ++ [{ code := .escape, control := false }])
  else
    typed.modify (· ++ bytes.toList.map strokeOfByte)
    listen input typed

/-- Shows a session from the upper left corner of the terminal on. -/
def paint (console : Console) : IO Unit := do
  let output ← IO.getStdout
  output.putStr "\x1b[H"
  for row in sent (console.layers 80) 80 41 do
    output.putStr (row ++ "\r\n")
  output.flush

/-- Plays frames until the player quits, each key counting as held for one frame. -/
partial def play (console : Console) (typed : IO.Ref (List Keyboard.Stroke)) : IO Unit := do
  let strokes ← typed.modifyGet fun strokes => (strokes, [])
  if strokes.any Keyboard.Stroke.quits then
    return
  let keys := strokes.filterMap (·.code.key?)
  let held := keys.foldl (fun console key => console.setKeys (.press key)) console
  let next := held.frame
  paint next
  IO.sleep (1000 / console.options.frameRate.toUInt32)
  play (next.setKeys .liftAll) typed

/-- Writes what there is to say and yields the exit code. -/
def leave (exit : Exit) : IO UInt32 := do
  IO.print exit.output
  IO.eprint exit.errors
  return exit.code.toUInt32

/-- Starts a session for the given words of the command line and plays it. -/
def session (args : List String) : IO UInt32 := do
  match Launch.options args with
  | .error exit => leave exit
  | .ok options =>
    let chance := (← IO.getRandomBytes 8).toUInt64LE!
    match Launch.console options chance (← readFile options.rom) with
    | .error exit => leave exit
    | .ok console =>
      let typed ← IO.mkRef []
      let _ ← IO.asTask (listen (← IO.getStdin) typed)
      IO.print "\x1b[2J"
      play console typed
      return 0

end ChipEight.Terminal

/-- Plays the program image that the command line names. -/
def main (args : List String) : IO UInt32 :=
  ChipEight.Terminal.session args
