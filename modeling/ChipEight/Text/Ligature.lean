import ChipEight.Text.Pictograph
import ChipEight.Text.Width

/-! Letters of several scripts that are drawn as one with the letter before them. -/

namespace ChipEight.Text

/-- The forms of the Arabic letter lam. -/
def lams : Ranges :=
  [(0x644, 0x644), (0x6B5, 0x6B8), (0x76A, 0x76A), (0x8A6, 0x8A6), (0x8C7, 0x8C7)]

/-- The forms of the Arabic letter alef. -/
def alefs : Ranges :=
  [(0x622, 0x623), (0x625, 0x625), (0x627, 0x627), (0x671, 0x673), (0x675, 0x675),
    (0x773, 0x774), (0x870, 0x882)]

/-- Characters without a column that keep the letters on their two sides apart. -/
def opaqueCharacters : Ranges :=
  [(0x605, 0x605), (0x890, 0x891), (0x8E2, 0x8E2), (0x9BE, 0x9BE), (0x9D7, 0x9D7), (0xB3E, 0xB3E),
   (0xB57, 0xB57), (0xBBE, 0xBBE), (0xBD7, 0xBD7), (0xCC0, 0xCC0), (0xCC2, 0xCC2), (0xCC7, 0xCC8),
   (0xCCA, 0xCCB), (0xCD5, 0xCD6), (0xD3E, 0xD3E), (0xD4E, 0xD4E), (0xD57, 0xD57), (0xDCF, 0xDCF),
   (0xDDF, 0xDDF), (0x1160, 0x11FF), (0x180E, 0x180E), (0x1B35, 0x1B35), (0x1B3B, 0x1B3B),
   (0x1B3D, 0x1B3D), (0x1B43, 0x1B43), (0x200C, 0x200D), (0x2065, 0x2069), (0x302E, 0x302F),
   (0x3164, 0x3164), (0xA8FA, 0xA8FA), (0xD7B0, 0xD7C6), (0xD7CB, 0xD7FB), (0xFF9E, 0xFFA0),
   (0xFFF0, 0xFFF8), (0x111C2, 0x111C3), (0x1133E, 0x1133E), (0x11357, 0x11357), (0x114B0, 0x114B0),
   (0x114BD, 0x114BD), (0x115AF, 0x115AF), (0x11930, 0x11930), (0x1193F, 0x1193F),
   (0x11941, 0x11941), (0x11A3A, 0x11A3A), (0x11A84, 0x11A89), (0x11D46, 0x11D46),
   (0x11F02, 0x11F02), (0x1D165, 0x1D165), (0x1D16E, 0x1D172), (0xE0000, 0xE0000),
   (0xE0002, 0xE001F), (0xE0080, 0xE00FF), (0xE01F0, 0xE0FFF)]

/-- Marks that nobody sees, so that the letters on their two sides stay neighbours. -/
def unseenMarks : Ranges :=
  [(0x34F, 0x34F), (0x17B4, 0x17B5), (0x180B, 0x180D), (0x180F, 0x180F), (0xFE00, 0xFE0F),
    (0xE0100, 0xE01EF)]

/-- The Tifinagh letters, of which two may share a column. -/
def tifinaghLetters : Ranges :=
  [(0x2D31, 0x2D65), (0x2D6F, 0x2D6F)]

/-- The Khmer letters that fit below the letter before them. -/
def subjoinedLetters : Ranges :=
  [(0x1780, 0x1782), (0x1784, 0x1787), (0x1789, 0x178C), (0x178E, 0x1793), (0x1795, 0x1798),
   (0x179B, 0x179D), (0x17A0, 0x17A0), (0x17A2, 0x17A2), (0x17A7, 0x17A7), (0x17AB, 0x17AC),
   (0x17AF, 0x17AF)]

/-- The first parts of the Lisu tones with two parts. -/
def firstTones : Ranges :=
  [(0xA4F8, 0xA4FB)]

/-- The second parts of the Lisu tones with two parts. -/
def secondTones : Ranges :=
  [(0xA4FC, 0xA4FD)]

example : opaqueCharacters.apart = true ∧ opaqueCharacters.size = 4067 := by decide +kernel

/-- The part of a ligature that the text begins with. -/
inductive Half where
  /-- An Arabic alef. -/
  | alef
  /-- A Hebrew lamed, with or without a joiner before it. -/
  | lamed (joined : Bool)
  /-- A Buginese ya, with or without a joiner before it. -/
  | ya (joined : Bool)
  /-- A Buginese vowel sign with a joined ya. -/
  | vowelYa
  /-- A Tifinagh letter, with or without a joiner before it. -/
  | tifinagh (joined : Bool)
  /-- A Tifinagh letter with the script's own joining sign. -/
  | linkedTifinagh
  /-- The second part of a Lisu tone. -/
  | tone
  /-- The Old Turkic letter that follows another, with or without a joiner before it. -/
  | orkhon (joined : Bool)
  /-- A Khmer letter that fits below another. -/
  | subjoined
deriving DecidableEq, Repr

namespace Half

/-- The part of a ligature that a character may be. -/
def of? (c : Char) : Option Half :=
  if alefs.covers c then some .alef
  else if c = '\u05DC' then some (.lamed false)
  else if c = '\u1A10' then some (.ya false)
  else if tifinaghLetters.covers c then some (.tifinagh false)
  else if secondTones.covers c then some .tone
  else if c = '𐰃' then some (.orkhon false)
  else if subjoinedLetters.covers c then some .subjoined
  else none

/-- The same part with a joiner before it. -/
def join : Half → Half
  | lamed _ => lamed true
  | ya _ => ya true
  | tifinagh _ => tifinagh true
  | orkhon _ => orkhon true
  | half => half

/-- Whether a character leaves the part next to what comes before the character. -/
def seesThrough (half : Half) (c : Char) : Bool :=
  match half with
  | alef => charColumns c = 0 && !opaqueCharacters.covers c
  | _ => unseenMarks.covers c

/-- What a letter makes of the part, if the two form a ligature. -/
inductive Union where
  /-- They share the columns of the part, and the ligature is complete. -/
  | complete
  /-- They share one column less than those of the part, and the ligature is complete. -/
  | below
  /-- They share the columns of the part, and may form a ligature with another letter. -/
  | part (half : Half)
  /-- They take one column more, and may form a ligature with another letter. -/
  | beside (half : Half)
deriving DecidableEq, Repr

/-- What a letter before the part makes of it. -/
def unite? (half : Half) (c : Char) : Option Union :=
  match half with
  | alef => if lams.covers c then some .complete else none
  -- The joiner is what makes one of these two.
  | lamed joined => if joined && c = '\u05D0' then some .complete else none
  | ya joined => if joined && c = '\u1A17' then some (.part vowelYa) else none
  | vowelYa => if c = '\u1A15' then some .complete else none
  | tifinagh joined =>
    if c = '\u2D7F' then some (.beside linkedTifinagh)
    else if joined && tifinaghLetters.covers c then some .complete
    else none
  | linkedTifinagh => if tifinaghLetters.covers c then some .below else none
  | tone => if firstTones.covers c then some .complete else none
  | orkhon joined => if joined && c = '𐰲' then some .complete else none
  | subjoined => if c = '\u17D2' then some .below else none

end Half

end ChipEight.Text
