import ChipEight.CommandLine

/-! What the program says about its own use. -/

namespace ChipEight.CommandLine

/-- The name of the program and its version. -/
def versionText : String :=
  "chip8-vm 0.1.0\n"

/-- How the program is called. -/
def usageLine : String :=
  "Usage: chip8-vm [OPTIONS] <ROM>\n"

/-- The whole usage text. -/
def usageText : String :=
  "Run a CHIP-8 program in the terminal\n" ++
  "\n" ++ usageLine ++
  "\n" ++
  "Arguments:\n" ++
  "  <ROM>  Path to the ROM image\n" ++
  "\n" ++
  "Options:\n" ++
  "      --frame-rate <FRAME_RATE>  " ++
    "Frames per second; timers count down once per frame [default: 60]\n" ++
  "      --ips <IPS>                Instructions executed per second [default: 700]\n" ++
  "      --seed <SEED>              " ++
    "Seed for the random number opcode, for reproducible runs\n" ++
  "  -h, --help                     Print help\n" ++
  "  -V, --version                  Print version\n"

/-- What is wrong with a command line that asks for nothing else. -/
def Stop.complaint : Stop → String
  | help | version => ""
  | missingRom => "a required argument was not provided: <ROM>"
  | unknownArgument => "unexpected argument found"
  | repeated => "an option cannot be used multiple times"
  | missingValue => "a value is required but none was supplied"
  | invalidValue => "invalid value for an option"
  | unwantedValue => "unexpected value for an option that takes none"

end ChipEight.CommandLine
