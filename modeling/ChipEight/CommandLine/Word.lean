import ChipEight.CommandLine.Numeral

/-! The words of a command line, told apart by their leading hyphens. -/

namespace ChipEight.CommandLine

/-- A choice that takes a number. -/
inductive Choice where
  /-- Frames in a second. -/
  | frameRate
  /-- Instructions in a second. -/
  | speed
  /-- The seed of the random source. -/
  | seed
deriving DecidableEq, Repr

namespace Choice

/-- The name of a choice, written after two hyphens. -/
def name : Choice → String
  | frameRate => "frame-rate"
  | speed => "ips"
  | seed => "seed"

/-- Whether a number may be given to a choice. -/
def admits (choice : Choice) (value : UInt64) : Bool :=
  match choice with
  | frameRate => 1 ≤ value && value ≤ 1000
  | speed => 1 ≤ value
  | seed => true

/-- The number that a text gives to a choice, if it is a numeral in range. -/
def value? (choice : Choice) (text : String) : Option UInt64 :=
  (numeral? text).filter choice.admits

end Choice

/-- A word of the command line before the separator. -/
inductive Word where
  /-- Two hyphens, after which every word is taken as it stands. -/
  | separator
  /-- A request for the usage text, and whether a value was attached to it. -/
  | help (attached : Bool)
  /-- A request for the version, and whether a value was attached to it. -/
  | version (attached : Bool)
  /-- A choice with the value attached after an equals sign, if there is one. -/
  | choice (choice : Choice) (attached : Option String)
  /-- Hyphens before something that is not known. -/
  | unknown
  /-- A word without a leading hyphen, or a single hyphen. -/
  | plain (text : String)
deriving DecidableEq, Repr

namespace Word

/-- What stands behind the first equals sign, if there is one. -/
def attachment : List Char → Option String
  | [] => none
  -- Only the first equals sign ends the name.
  | '=' :: value => some (String.ofList value)
  | _ :: rest => attachment rest

/-- The word of a name that follows two hyphens, with its attached value. -/
def ofLong (name : String) (attached : Option String) : Word :=
  if name = "help" then help attached.isSome
  else if name = "version" then version attached.isSome
  else if name = Choice.frameRate.name then choice .frameRate attached
  else if name = Choice.speed.name then choice .speed attached
  else if name = Choice.seed.name then choice .seed attached
  else unknown

/-- The word of the first letter that follows a single hyphen. -/
def ofShort : Char → Word
  | 'h' => help false
  | 'V' => version false
  | _ => unknown

/-- Tells what kind of word a text is. -/
def ofString (text : String) : Word :=
  match text.toList with
  | ['-', '-'] => separator
  | '-' :: '-' :: rest =>
    ofLong (String.ofList (rest.takeWhile (· != '='))) (attachment rest)
  -- Letters behind the first one of a single hyphen are not looked at.
  | '-' :: letter :: _ => ofShort letter
  | _ => plain text

example : ofString "--ips=5" = choice .speed (some "5") := by decide +kernel
example : ofString "--seed" = choice .seed none := by decide +kernel
example : ofString "-" = plain "-" ∧ ofString "-5" = unknown := by decide +kernel

end Word

end ChipEight.CommandLine
