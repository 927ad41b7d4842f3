import ChipEight.Text.Mark
import ChipEight.Text.Pictograph

/-! The runs of characters that a reader takes for one, as of version 17 of Unicode. -/

namespace ChipEight.Text

/-- Control and format characters, which stand alone. -/
def controls : Ranges :=
  [(0x0, 0x9), (0xB, 0xC), (0xE, 0x1F), (0x7F, 0x9F), (0xAD, 0xAD), (0x61C, 0x61C),
   (0x180E, 0x180E), (0x200B, 0x200B), (0x200E, 0x200F), (0x2028, 0x202E), (0x2060, 0x206F),
   (0xFEFF, 0xFEFF), (0xFFF0, 0xFFFB), (0x13430, 0x1343F), (0x1BCA0, 0x1BCA3), (0x1D173, 0x1D17A),
   (0xE0000, 0xE001F), (0xE0080, 0xE00FF), (0xE01F0, 0xE0FFF)]

/-- Consonants of the scripts that write a run of consonants as one shape. -/
def conjoiningConsonants : Ranges :=
  [(0x915, 0x939), (0x958, 0x95F), (0x978, 0x97F), (0x995, 0x9A8), (0x9AA, 0x9B0), (0x9B2, 0x9B2),
   (0x9B6, 0x9B9), (0x9DC, 0x9DD), (0x9DF, 0x9DF), (0x9F0, 0x9F1), (0xA95, 0xAA8), (0xAAA, 0xAB0),
   (0xAB2, 0xAB3), (0xAB5, 0xAB9), (0xAF9, 0xAF9), (0xB15, 0xB28), (0xB2A, 0xB30), (0xB32, 0xB33),
   (0xB35, 0xB39), (0xB5C, 0xB5D), (0xB5F, 0xB5F), (0xB71, 0xB71), (0xC15, 0xC28), (0xC2A, 0xC39),
   (0xC58, 0xC5A), (0xD15, 0xD3A), (0x1000, 0x102A), (0x103F, 0x103F), (0x1050, 0x1055),
   (0x105A, 0x105D), (0x1061, 0x1061), (0x1065, 0x1066), (0x106E, 0x1070), (0x1075, 0x1081),
   (0x108E, 0x108E), (0x1780, 0x17B3), (0x1A20, 0x1A54), (0x1B0B, 0x1B0C), (0x1B13, 0x1B33),
   (0x1B45, 0x1B4C), (0x1B83, 0x1BA0), (0x1BAE, 0x1BAF), (0x1BBB, 0x1BBD), (0xA989, 0xA98B),
   (0xA98F, 0xA9B2), (0xA9E0, 0xA9E4), (0xA9E7, 0xA9EF), (0xA9FA, 0xA9FE), (0xAA60, 0xAA6F),
   (0xAA71, 0xAA73), (0xAA7A, 0xAA7A), (0xAA7E, 0xAA7F), (0xAAE0, 0xAAEA), (0xABC0, 0xABDA),
   (0x10A00, 0x10A00), (0x10A10, 0x10A13), (0x10A15, 0x10A17), (0x10A19, 0x10A35),
   (0x11103, 0x11126), (0x11144, 0x11144), (0x11147, 0x11147), (0x11380, 0x11389),
   (0x1138B, 0x1138B), (0x1138E, 0x1138E), (0x11390, 0x113B5), (0x11900, 0x11906),
   (0x11909, 0x11909), (0x1190C, 0x11913), (0x11915, 0x11916), (0x11918, 0x1192F),
   (0x11A00, 0x11A00), (0x11A0B, 0x11A32), (0x11A50, 0x11A50), (0x11A5C, 0x11A83),
   (0x11F04, 0x11F10), (0x11F12, 0x11F33)]

/-- Signs that make one shape of the consonants on their two sides. -/
def consonantLinkers : Ranges :=
  [(0x94D, 0x94D), (0x9CD, 0x9CD), (0xACD, 0xACD), (0xB4D, 0xB4D), (0xC4D, 0xC4D), (0xD4D, 0xD4D),
   (0x1039, 0x1039), (0x17D2, 0x17D2), (0x1A60, 0x1A60), (0x1B44, 0x1B44), (0x1BAB, 0x1BAB),
   (0xA9C0, 0xA9C0), (0xAAF6, 0xAAF6), (0x10A3F, 0x10A3F), (0x11133, 0x11133), (0x113D0, 0x113D0),
   (0x1193E, 0x1193E), (0x11A47, 0x11A47), (0x11A99, 0x11A99), (0x11F42, 0x11F42)]

example : controls.apart = true ∧ controls.size = 3893 := by decide +kernel
example : conjoiningConsonants.apart = true ∧ conjoiningConsonants.size = 911 := by
  decide +kernel
example : consonantLinkers.apart = true ∧ consonantLinkers.size = 20 := by decide +kernel

/-- What a character is for the division into clusters. -/
inductive Role where
  /-- A carriage return. -/
  | carriageReturn
  /-- A line feed. -/
  | lineFeed
  /-- Another control or format character. -/
  | control
  /-- A mark over the character before it. -/
  | extending
  /-- A mark that makes one shape of two consonants. -/
  | linker
  /-- A mark that keeps the characters on its two sides from forming one shape. -/
  | separator
  /-- The mark that joins pictographs. -/
  | joiner
  /-- A mark beside the character before it. -/
  | spacing
  /-- A mark of the character after it. -/
  | preposed
  /-- A letter of a flag. -/
  | flagLetter
  /-- A pictograph. -/
  | pictograph
  /-- A consonant at the start of a Korean syllable. -/
  | leadingJamo
  /-- A vowel of a Korean syllable. -/
  | vowelJamo
  /-- A consonant at the end of a Korean syllable. -/
  | trailingJamo
  /-- A Korean syllable that ends in its vowel. -/
  | openSyllable
  /-- A Korean syllable that ends in a consonant. -/
  | closedSyllable
  /-- A consonant that may be linked to the next. -/
  | consonant
  /-- Any other character. -/
  | other
deriving DecidableEq, Repr

/-- The consonants at the start of Korean syllables. -/
def leadingJamos : Ranges :=
  [(0x1100, 0x115F), (0xA960, 0xA97C)]

/-- The vowels of Korean syllables, and vowel signs that behave like these. -/
def vowelJamos : Ranges :=
  [(0x1160, 0x11A7), (0xD7B0, 0xD7C6), (0x16D63, 0x16D63), (0x16D67, 0x16D6A)]

/-- The consonants at the end of Korean syllables. -/
def trailingJamos : Ranges :=
  [(0x11A8, 0x11FF), (0xD7CB, 0xD7FB)]

/-- The whole syllables of Korean, each vowel followed by its closed syllables. -/
def syllables : Ranges :=
  [(0xAC00, 0xD7A3)]

/-- The role of a character. -/
def Role.of (c : Char) : Role :=
  -- The tables overlap, so that the first one to list a character decides.
  if c = '\r' then .carriageReturn
  else if c = '\n' then .lineFeed
  else if controls.covers c then .control
  else if c = Text.joiner then .joiner
  else if c = '\u200C' then .separator
  else if consonantLinkers.covers c then .linker
  else if extendingMarks.covers c || skinTones.covers c then .extending
  else if spacingMarks.covers c then .spacing
  else if preposedMarks.covers c then .preposed
  else if flagLetters.covers c then .flagLetter
  else if pictographs.covers c then .pictograph
  else if leadingJamos.covers c then .leadingJamo
  else if vowelJamos.covers c then .vowelJamo
  else if trailingJamos.covers c then .trailingJamo
  else if syllables.covers c then
    -- Each open syllable is followed by its 27 closed ones.
    if (c.toNat - 0xAC00) % 28 = 0 then .openSyllable else .closedSyllable
  else if conjoiningConsonants.covers c then .consonant
  else .other

/-- What the characters read so far end in, as far as a later character may join it. -/
inductive Ending where
  /-- Nothing that asks for more than the last character. -/
  | plain
  /-- A pictograph with its marks. -/
  | pictograph
  /-- A pictograph with its marks and a joiner. -/
  | joinedPictograph
  /-- A consonant with marks. -/
  | consonant
  /-- A consonant with marks, among them a linker. -/
  | linkedConsonant
  /-- The first letter of a flag. -/
  | halfFlag
deriving DecidableEq, Repr

/-- The ending after one more character. -/
def Ending.next : Ending → Role → Ending
  | _, .pictograph => .pictograph
  | .pictograph, .extending | .pictograph, .linker | .pictograph, .separator => .pictograph
  | .pictograph, .joiner => .joinedPictograph
  | _, .consonant => .consonant
  | .consonant, .extending | .consonant, .joiner => .consonant
  | .consonant, .linker => .linkedConsonant
  | .linkedConsonant, .extending | .linkedConsonant, .joiner | .linkedConsonant, .linker =>
    .linkedConsonant
  | .halfFlag, .flagLetter => .plain
  | _, .flagLetter => .halfFlag
  | _, _ => .plain

/-- What the division into clusters keeps of the characters read so far. -/
structure Reading where
  /-- The role of the last character, if there is one. -/
  last : Option Role
  /-- What the characters end in. -/
  ending : Ending
deriving DecidableEq, Repr

namespace Reading

/-- Nothing read so far. -/
def start : Reading where
  last := none
  ending := .plain

/-- The reading after one more character. -/
def next (reading : Reading) (role : Role) : Reading where
  last := some role
  ending := reading.ending.next role

/-- Whether a character of the given role belongs to the cluster of the one before it. -/
def joins (reading : Reading) (role : Role) : Bool :=
  match reading.last, role with
  | none, _ => false
  | some .carriageReturn, .lineFeed => true
  -- Line breaks and controls stand alone, but for a carriage return with its line feed.
  | some .carriageReturn, _ | some .lineFeed, _ | some .control, _ => false
  | _, .carriageReturn | _, .lineFeed | _, .control => false
  -- A mark joins whatever it follows.
  | _, .extending | _, .linker | _, .separator | _, .joiner | _, .spacing => true
  | some .preposed, _ => true
  | some .leadingJamo, .leadingJamo | some .leadingJamo, .vowelJamo => true
  | some .leadingJamo, .openSyllable | some .leadingJamo, .closedSyllable => true
  | some .openSyllable, .vowelJamo | some .openSyllable, .trailingJamo => true
  | some .vowelJamo, .vowelJamo | some .vowelJamo, .trailingJamo => true
  | some .closedSyllable, .trailingJamo | some .trailingJamo, .trailingJamo => true
  -- Whether these join depends on more than the last character.
  | _, .pictograph => reading.ending = .joinedPictograph
  | _, .consonant => reading.ending = .linkedConsonant
  | _, .flagLetter => reading.ending = .halfFlag
  | _, _ => false

end Reading

/-- The rest of a cluster that has been begun, and the clusters after it. -/
def divide : Reading → List Char → List Char × List (List Char)
  | _, [] => ([], [])
  | reading, c :: rest =>
    -- Only what follows can tell how long the cluster of this character is.
    let role := Role.of c
    let (cluster, later) := divide (reading.next role) rest
    if reading.joins role then (c :: cluster, later) else ([], (c :: cluster) :: later)

/-- The clusters of a text in order. -/
def clusters (text : List Char) : List (List Char) :=
  (divide .start text).2

end ChipEight.Text
