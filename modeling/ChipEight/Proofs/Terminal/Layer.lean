import ChipEight.Terminal.Strip

/-! What layers of cells cover, and the rows of a terminal on which every cell is one character. -/

namespace ChipEight.Terminal

namespace Area

/-- A place lies in a rectangle if its column and its row do. -/
theorem contains_iff {area : Area} {column row : Nat} :
    area.contains column row = true ↔
      (area.left ≤ column ∧ column < area.left + area.width) ∧
        area.top ≤ row ∧ row < area.top + area.height := by
  simp [contains, and_assoc]

/-- What is outside a rectangle is outside the rectangle within its border. -/
theorem inner_outside {area : Area} {column row : Nat}
    (outside : area.contains column row = false) : area.inner.contains column row = false := by
  -- The border is taken off each side, so that a place within it is within the rectangle.
  rw [← Bool.not_eq_true, contains_iff] at outside ⊢
  simp only [inner]
  omega

/-- What is outside a rectangle is outside the first row between its corners. -/
theorem heading_outside {area : Area} {column row : Nat} (tall : 1 ≤ area.height)
    (outside : area.contains column row = false) : area.heading.contains column row = false := by
  -- The heading is a part of the first row, and there is a first row.
  rw [← Bool.not_eq_true, contains_iff] at outside ⊢
  simp only [heading]
  omega

end Area

variable {area : Area} {colour : Colour} {lines : List (List Char)} {column row : Nat}

namespace Layer

/-- A border covers nothing outside its rectangle. -/
theorem border_outside (outside : area.contains column row = false) :
    border area colour column row = none := by
  simp [border, outside]

/-- A text covers nothing outside its rectangle. -/
theorem text_outside (outside : area.contains column row = false) :
    text area colour lines column row = none := by
  simp [text, outside]

/-- A text in the middle covers nothing outside its rectangle. -/
theorem centred_outside (outside : area.contains column row = false) :
    centred area colour lines column row = none :=
  text_outside outside

/-- A strip covers the first row of its rectangle only. -/
theorem strip_below {strip : Strip} (below : row ≠ area.top) :
    Layer.strip area strip column row = none := by
  simp [Layer.strip, below]

/-- A border covers nothing of the rectangle within. -/
theorem border_inner (inside : area.inner.contains column row = true) :
    border area colour column row = none := by
  -- A place within is on none of the four sides.
  simp only [Area.contains_iff, Area.inner] at inside
  have within : area.contains column row = true := by
    rw [Area.contains_iff]
    omega
  have top : row ≠ area.top := by omega
  have bottom : row ≠ area.top + area.height - 1 := by omega
  have left : column ≠ area.left := by omega
  have right : column ≠ area.left + area.width - 1 := by omega
  simp [border, within, top, bottom, left, right]

/-- Between the corners of a border its two sides are upright bars. -/
theorem border_side (wide : 1 ≤ area.width) (below : area.top < row)
    (above : row < area.top + area.height - 1)
    (side : column = area.left ∨ column = area.left + area.width - 1) :
    border area colour column row = some { glyph := '│', colour } := by
  -- Being neither in the first row nor in the last one leaves the two sides.
  have within : area.contains column row = true := by
    rw [Area.contains_iff]
    omega
  have top : row ≠ area.top := by omega
  have bottom : row ≠ area.top + area.height - 1 := by omega
  simp [border, within, top, bottom, side]

/-- A text covers the places of its characters, as far as they are in its rectangle. -/
theorem text_inside (inside : area.contains column row = true) {letters : List Char} {glyph : Char}
    (line : lines[row - area.top]? = some letters)
    (letter : letters[column - area.left]? = some glyph) :
    text area colour lines column row = some { glyph, colour } := by
  -- The place is in the rectangle, its row is one of the lines and its column one of the letters.
  simp [text, inside, line, letter]

/-- Whether a layer covers a place with a character that no marks are drawn with, if at all. -/
def Bare (layer : Layer) (column row : Nat) : Prop :=
  ∀ cell, layer column row = some cell → cell.marks = []

/-- What covers nothing covers it without marks. -/
theorem bare_of_eq_none {layer : Layer} (uncovered : layer column row = none) :
    layer.Bare column row := by
  intro cell covered
  rw [uncovered] at covered
  cases covered

/-- A border is made of characters without marks. -/
theorem bare_border : (border area colour).Bare column row := by
  -- Whichever glyph the border has here, its cell is made of the glyph and the colour alone.
  intro cell covered
  obtain ⟨glyph, -, rfl⟩ := Option.map_eq_some_iff.mp covered
  rfl

/-- A text is made of characters without marks. -/
theorem bare_text : (text area colour lines).Bare column row := by
  -- A cell is made for each character, and nothing else is covered.
  intro cell covered
  simp only [text] at covered
  split at covered
  · simp only [Option.bind_eq_bind, Option.bind_eq_some_iff] at covered
    obtain ⟨letters, -, glyph, -, shown⟩ := covered
    cases shown
    rfl
  · cases covered

/-- A text in the middle is made of characters without marks. -/
theorem bare_centred : (centred area colour lines).Bare column row :=
  bare_text

end Layer

variable {layer : Layer} {layers : List Layer} {cell : Cell}

/-- Without a layer the terminal is empty. -/
theorem shown_nil (column row : Nat) : shown [] column row = Cell.blank := rfl

/-- A layer that does not cover a place lets the layers behind it show there. -/
theorem shown_cons_of_none (uncovered : layer column row = none) :
    shown (layer :: layers) column row = shown layers column row := by
  -- The search goes on to the next layer.
  simp [shown, uncovered]

/-- A layer that covers a place hides the layers behind it there. -/
theorem shown_cons_of_some (covered : layer column row = some cell) :
    shown (layer :: layers) column row = cell := by
  -- The search ends at the first layer.
  simp [shown, covered]

/-- Where no layer has a character with marks, none is shown. -/
theorem marks_shown (bare : ∀ layer ∈ layers, layer.Bare column row) :
    (shown layers column row).marks = [] := by
  -- What is shown is of one of the layers, or it is blank.
  unfold shown
  cases found : layers.findSome? fun layer => layer column row with
  | none => rfl
  | some cell =>
    obtain ⟨layer, member, covered⟩ := List.exists_of_findSome?_eq_some found
    exact bare layer member cell covered

/-- The cell of a terminal of the given size at a column and a row, if these are on the terminal. -/
def cell? (layers : List Layer) (width height column row : Nat) : Option Cell :=
  if column < width ∧ row < height then some (shown layers column row) else none

/-- The character at a column of a row of characters. -/
def glyph? (rows : List String) (column row : Nat) : Option Char :=
  rows[row]?.bind fun line => line.toList[column]?

/-- The rows of a terminal are what its cells hold. -/
theorem rows_getElem? (layers : List Layer) (width height row : Nat) :
    (rows layers width height)[row]? =
      if row < height then
        some (String.ofList ((rowCells layers width row).flatMap Cell.text))
      else none := by
  -- Below the last row there is none.
  by_cases below : row < height <;> simp [rows, below]

/-- On a row without marks every column is one character. -/
theorem glyph?_rows {width height : Nat}
    (bare : ∀ column, (shown layers column row).marks = []) :
    glyph? (rows layers width height) column row =
      (cell? layers width height column row).map Cell.glyph := by
  -- The text of a cell without marks is its one character, so the text is as long as the row.
  have text : ∀ column, (shown layers column row).text = [(shown layers column row).glyph] := by
    intro column
    simp [Cell.text, bare column]
  have line : (rowCells layers width row).flatMap Cell.text =
      (List.range width).map fun column => (shown layers column row).glyph := by
    simp only [rowCells, List.flatMap_map, text, ← List.map_eq_flatMap]
  rw [glyph?, rows_getElem?, cell?, line]
  -- The character is on the terminal if both its row and its column are.
  by_cases below : row < height <;> by_cases within : column < width <;> simp [below, within]

end ChipEight.Terminal
