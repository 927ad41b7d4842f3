import ChipEight.CommandLine.Word
import ChipEight.Options

/-! The options that a command line gives, or the first reason why it gives none. -/

namespace ChipEight.CommandLine

/-- Why reading a command line ends without options. -/
inductive Stop where
  /-- The usage text is asked for. -/
  | help
  /-- The version is asked for. -/
  | version
  /-- No program image is named. -/
  | missingRom
  /-- A word is not known, or there is a second plain word. -/
  | unknownArgument
  /-- A choice is given twice. -/
  | repeated
  /-- A choice has no value, or the image an empty name. -/
  | missingValue
  /-- A value is no numeral or out of range. -/
  | invalidValue
  /-- A request without a value has one attached. -/
  | unwantedValue
deriving DecidableEq, Repr

/-- What the words read so far have settled. -/
structure Given where
  /-- The path of the program image. -/
  rom : Option String
  /-- Frames in a second. -/
  frameRate : Option UInt64
  /-- Instructions in a second. -/
  speed : Option UInt64
  /-- The seed of the random source. -/
  seed : Option UInt64
deriving DecidableEq, Repr

/-- What has been read but will be looked at only when the next argument is settled. -/
inductive Pending where
  /-- Everything read has been settled. -/
  | nothing
  /-- A choice written without attached value, and the word behind it once it is read. -/
  | choice (choice : Choice) (text : Option String)
  /-- The path of the program image. -/
  | rom (path : String)
deriving DecidableEq, Repr

namespace Given

/-- Before any word is read. -/
def empty : Given where
  rom := none
  frameRate := none
  speed := none
  seed := none

/-- The number given to a choice. -/
def get (given : Given) : Choice → Option UInt64
  | .frameRate => given.frameRate
  | .speed => given.speed
  | .seed => given.seed

/-- Gives a number to a choice. -/
def set (given : Given) (choice : Choice) (value : UInt64) : Given :=
  match choice with
  | .frameRate => { given with frameRate := some value }
  | .speed => { given with speed := some value }
  | .seed => { given with seed := some value }

/-- Settles a choice, which must be the first of its name and have a fitting value. -/
def settle (given : Given) (choice : Choice) (text : String) : Except Stop Given :=
  -- A choice given before is refused whatever its value.
  if (given.get choice).isSome then
    .error .repeated
  else
    match choice.value? text with
    | some value => .ok (given.set choice value)
    | none => .error .invalidValue

/-- The options once all words are read, with defaults for what was not given. -/
def options (given : Given) : Except Stop Options :=
  match given.rom with
  | none => .error .missingRom
  | some rom =>
    .ok
      { rom
        frameRate := given.frameRate.getD Options.defaultFrameRate
        speed := given.speed.getD Options.defaultSpeed
        seed := given.seed }

end Given

/-- How far reading has come. -/
structure Progress where
  /-- What has been settled. -/
  given : Given
  /-- What has been read but not looked at. -/
  pending : Pending
deriving DecidableEq, Repr

namespace Progress

/-- Before any word is read. -/
def start : Progress where
  given := Given.empty
  pending := .nothing

/-- Settles what is pending. -/
def settle (progress : Progress) : Except Stop Given :=
  match progress.pending with
  | .nothing => .ok progress.given
  -- Nothing came that could be its value.
  | .choice _ none => .error .missingValue
  | .choice choice (some text) => progress.given.settle choice text
  | .rom path =>
    if path = "" then .error .missingValue
    else .ok { progress.given with rom := some path }

/-- Whether a plain word has already been taken as the program image. -/
def hasRom (progress : Progress) : Bool :=
  match progress.pending with
  -- A path that has been read counts although it is not settled.
  | .rom _ => true
  | _ => progress.given.rom.isSome

/-- Takes a plain word as the program image, of which there is one only. -/
def positional (progress : Progress) (text : String) : Except Stop Progress :=
  -- A second plain word is refused before anything pending is looked at.
  if progress.hasRom then
    .error .unknownArgument
  else do
    let given ← progress.settle
    return ⟨given, .rom text⟩

/-- Takes a word that stands before the separator. -/
def word (progress : Progress) (word : Word) : Except Stop Progress :=
  match word with
  | .separator => .ok progress
  | .unknown => .error .unknownArgument
  -- These are refused as they are read, with what is pending left unsettled.
  | .help true | .version true => .error .unwantedValue
  | .help false => do
    let _ ← progress.settle
    .error .help
  | .version false => do
    let _ ← progress.settle
    .error .version
  | .choice choice none => do
    let given ← progress.settle
    return ⟨given, .choice choice none⟩
  | .choice choice (some text) => do
    let given ← progress.settle
    let given ← given.settle choice text
    return ⟨given, .nothing⟩
  | .plain text =>
    -- A word without hyphens is the value of a choice that waits for one.
    match progress.pending with
    | .choice choice none => .ok { progress with pending := .choice choice (some text) }
    | _ => progress.positional text

/-- Takes all words, those behind the separator as they stand. -/
def words (progress : Progress) : List String → Except Stop Progress
  | [] => .ok progress
  | text :: rest =>
    match Word.ofString text with
    -- From here on hyphens mean nothing, so every word is a path.
    | .separator => rest.foldlM positional progress
    | read => do
      let next ← progress.word read
      next.words rest

end Progress

/-- The options of the words behind the program's name. -/
def parse (args : List String) : Except Stop Options := do
  let progress ← Progress.start.words args
  let given ← progress.settle
  given.options

end ChipEight.CommandLine
