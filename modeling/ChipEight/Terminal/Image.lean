/-! Pictures on a terminal, put together from layers of coloured cells. -/

namespace ChipEight.Terminal

/-- The colours in use. -/
inductive Colour where
  /-- The terminal's own colour. -/
  | plain
  /-- White. -/
  | white
  /-- Red. -/
  | red
  /-- Yellow. -/
  | yellow
deriving DecidableEq, Repr

/-- The name of a colour. -/
def Colour.name : Colour → String
  | plain => "Reset"
  | white => "White"
  | red => "Red"
  | yellow => "Yellow"

/-- What one place of the terminal shows. -/
structure Cell where
  /-- The character. -/
  glyph : Char
  /-- What is drawn with the character. -/
  marks : List Char := []
  /-- The colour of the character. -/
  colour : Colour
deriving DecidableEq, Repr

/-- The cell of an empty terminal. -/
def Cell.blank : Cell where
  glyph := ' '
  colour := .plain

/-- All characters of a cell. -/
def Cell.text (cell : Cell) : List Char :=
  cell.glyph :: cell.marks

/-- A rectangle of the terminal. -/
structure Area where
  /-- Its first column. -/
  left : Nat
  /-- Its first row. -/
  top : Nat
  /-- The number of its columns. -/
  width : Nat
  /-- The number of its rows. -/
  height : Nat
deriving DecidableEq, Repr

namespace Area

/-- Whether a place lies in the rectangle. -/
def contains (area : Area) (column row : Nat) : Bool :=
  area.left ≤ column && column < area.left + area.width &&
    area.top ≤ row && row < area.top + area.height

/-- The rectangle within a border of one cell. -/
def inner (area : Area) : Area where
  left := area.left + 1
  top := area.top + 1
  width := area.width - 2
  height := area.height - 2

/-- The first row between the two corners. -/
def heading (area : Area) : Area where
  left := area.left + 1
  top := area.top
  width := area.width - 2
  height := 1

end Area

/-- The cells that something covers, by column and row. -/
abbrev Layer := Nat → Nat → Option Cell

namespace Layer

/-- The border of a rectangle. -/
def border (area : Area) (colour : Colour) : Layer := fun column row =>
  let right := area.left + area.width - 1
  let bottom := area.top + area.height - 1
  -- The upper side goes first, so that a border of one row has no other.
  let glyph : Option Char :=
    if !area.contains column row then none
    else if row = area.top then
      some (if column = area.left then '┌' else if column = right then '┐' else '─')
    else if row = bottom then
      some (if column = area.left then '└' else if column = right then '┘' else '─')
    else if column = area.left || column = right then some '│'
    else none
  glyph.map fun glyph => { glyph, colour }

/-- Lines of text from a rectangle's first column on, cut off at its edges. -/
def text (area : Area) (colour : Colour) (lines : List (List Char)) : Layer := fun column row =>
  if area.contains column row then do
    let letters ← lines[row - area.top]?
    let glyph ← letters[column - area.left]?
    return { glyph, colour }
  else none

/-- Lines of text each in the middle of a rectangle, cut off at its edges. -/
def centred (area : Area) (colour : Colour) (lines : List (List Char)) : Layer :=
  text area colour (lines.map fun line =>
    -- The halves are rounded down each on its own.
    List.replicate (area.width / 2 - line.length / 2) ' ' ++ line)

end Layer

/-- The cell that the foremost covering layer shows, the first of the list being foremost. -/
def shown (layers : List Layer) (column row : Nat) : Cell :=
  (layers.findSome? fun layer => layer column row).getD Cell.blank

/-- The cells of one row of a terminal of the given width. -/
def rowCells (layers : List Layer) (width row : Nat) : List Cell :=
  (List.range width).map fun column => shown layers column row

/-- The characters of the layers row by row on a terminal of the given size. -/
def rows (layers : List Layer) (width height : Nat) : List String :=
  (List.range height).map fun row =>
    String.ofList ((rowCells layers width row).flatMap Cell.text)

/-- The places that show a character alone, in reading order, with its colours. -/
def places (layers : List Layer) (width height : Nat) (glyph : Char) :
    List (Nat × Nat × Colour) :=
  (List.range height).flatMap fun row =>
    (List.range width).filterMap fun column =>
      let cell := shown layers column row
      if cell.text = [glyph] then some (column, row, cell.colour) else none

end ChipEight.Terminal
