/-! The glyphs of the sixteen hexadecimal digits and their place in memory. -/

namespace ChipEight.Font

/-- Where the glyphs begin in memory. -/
def start : Nat := 0x50

/-- The number of rows of one glyph. -/
def height : Nat := 5

/-- One list of rows for each digit, the leftmost pixel in the highest bit. -/
def glyphs : List (List UInt8) :=
  [[0xF0, 0x90, 0x90, 0x90, 0xF0],
   [0x20, 0x60, 0x20, 0x20, 0x70],
   [0xF0, 0x10, 0xF0, 0x80, 0xF0],
   [0xF0, 0x10, 0xF0, 0x10, 0xF0],
   [0x90, 0x90, 0xF0, 0x10, 0x10],
   [0xF0, 0x80, 0xF0, 0x10, 0xF0],
   [0xF0, 0x80, 0xF0, 0x90, 0xF0],
   [0xF0, 0x10, 0x20, 0x40, 0x40],
   [0xF0, 0x90, 0xF0, 0x90, 0xF0],
   [0xF0, 0x90, 0xF0, 0x10, 0xF0],
   [0xF0, 0x90, 0xF0, 0x90, 0x90],
   [0xE0, 0x90, 0xE0, 0x90, 0xE0],
   [0xF0, 0x80, 0x80, 0x80, 0xF0],
   [0xE0, 0x90, 0x90, 0x90, 0xE0],
   [0xF0, 0x80, 0xF0, 0x80, 0xF0],
   [0xF0, 0x80, 0xF0, 0x80, 0x80]]

/-- All rows of all glyphs in the order in which memory holds them. -/
def bytes : List UInt8 :=
  glyphs.flatten

example : ∀ glyph ∈ glyphs, glyph.length = height := by decide

/-- Sixteen glyphs of five rows make eighty bytes. -/
@[simp] theorem length_bytes : bytes.length = 80 := by decide

end ChipEight.Font
