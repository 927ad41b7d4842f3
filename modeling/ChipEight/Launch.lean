import ChipEight.CommandLine.Usage
import ChipEight.Console

/-! How the program begins, with a session or with a message and an exit code. -/

namespace ChipEight

/-- How the program ends when no session begins. -/
structure Exit where
  /-- The exit code. -/
  code : Nat
  /-- What is written to the standard output. -/
  output : String
  /-- What is written to the standard error output. -/
  errors : String
deriving DecidableEq, Repr

namespace Launch

/-- The causes below the first message, numbered if there are several. -/
def causeLines (causes : List String) : List String :=
  match causes with
  -- A single cause has no number.
  | [cause] => ["    " ++ cause]
  | _ => causes.mapIdx fun position cause => "    " ++ toString position ++ ": " ++ cause

/-- A report of messages, the first as a headline and the others as its causes. -/
def report (messages : List String) : String :=
  match messages with
  | [] => ""
  | headline :: [] => "Error: " ++ headline ++ "\n"
  | headline :: causes =>
    "Error: " ++ headline ++ "\n\nCaused by:\n" ++
      String.join ((causeLines causes).map (· ++ "\n"))

/-- How the program ends when the command line gives no options. -/
def exitOfStop (stop : CommandLine.Stop) : Exit :=
  match stop with
  | .help => ⟨0, CommandLine.usageText, ""⟩
  | .version => ⟨0, CommandLine.versionText, ""⟩
  | _ =>
    ⟨2, "", "error: " ++ stop.complaint ++ "\n\n" ++ CommandLine.usageLine ++
      "\nFor more information, try '--help'.\n"⟩

/-- How the program ends when the program image cannot be loaded. -/
def exitOfFailure (failure : LoadFailure) : Exit :=
  ⟨1, "", report failure.messages⟩

/-- The options of the command line, or how the program ends without them. -/
def options (args : List String) : Except Exit Options :=
  (CommandLine.parse args).mapError exitOfStop

/-- The session of the options, or how the program ends without one. -/
def console (options : Options) (chance : UInt64) (file : Except ReadFailure File) :
    Except Exit Console :=
  (Console.start options chance file).mapError exitOfFailure

end Launch

end ChipEight
