import ChipEight.Terminal.Image
import ChipEight.Text.Cluster
import ChipEight.Text.Line
import ChipEight.Text.Measure

/-! Texts in a row of cells, where a cluster takes as many cells as it has columns. -/

namespace ChipEight.Terminal

/-- The cell that shows a cluster. -/
def Cell.ofCluster (colour : Colour) : List Char → Cell
  | [] => .blank
  | glyph :: marks => { glyph, marks, colour }

/-- Cells side by side, some of which are left as they were. -/
abbrev Strip := List (Option Cell)

namespace Strip

/-- The columns of texts side by side. -/
def total (texts : List (List Char)) : Nat :=
  texts.foldr (fun text later => Text.columns text + later) 0

/-- The first clusters that have room together. -/
def fitting (room : Nat) : List (List Char) → List (List Char)
  | [] => []
  | cluster :: rest =>
    if Text.columns cluster ≤ room then
      cluster :: fitting (room - Text.columns cluster) rest
    else []

/-- The marks that clusters side by side begin with, and the cells of the clusters after these. -/
def cells (colour : Colour) : List (List Char) → List Char × List Cell
  | [] => ([], [])
  | cluster :: rest =>
    let (marks, later) := cells colour rest
    match Text.columns cluster with
    | 0 => (cluster ++ marks, later)
    | 1 => ([], .ofCluster colour (cluster ++ marks) :: later)
    -- A wide cluster hides the cells behind its first one.
    | hidden + 2 =>
      ([], .ofCluster colour cluster ::
        List.replicate hidden .blank ++ { Cell.blank with marks } :: later)

/-- A text in as many cells as there is room for, marks at its start being in the first cell. -/
def ofText (colour : Colour) (room : Nat) (text : List Char) : List Cell :=
  match cells colour (fitting room (Text.clusters text)) with
  | ([], shown) => shown
  | (marks, []) => [.ofCluster colour marks]
  | (marks, first :: later) => .ofCluster colour (marks ++ first.text) :: later

/-- A strip in front of another. -/
def atop : Strip → Strip → Strip
  | [], back => back
  | front, [] => front
  | cell :: front, hidden :: back => cell.or hidden :: atop front back

/-- Lines one after the other without a break between them, those without a column left out. -/
def ofLines (colour : Colour) : Nat → List (List Char) → Strip
  | _, [] => []
  | room, line :: rest =>
    let width := Text.columns line
    if width = 0 then ofLines colour room rest
    else
      atop (List.replicate width none ++ ofLines colour (room - width) rest)
        ((ofText colour room line).map some)

/-- A strip in which the cell behind one that shows more than one column is blank. -/
def shadowed (shadow : Bool) : Strip → Strip
  | [] => []
  | cell :: rest =>
    (if shadow then some .blank else cell) ::
      shadowed (cell.any fun cell => 2 ≤ Text.columns cell.text) rest

/-- The lines of a text one after the other, in as many cells as it has columns. -/
def ofTitle (colour : Colour) (room : Nat) (text : List Char) : Strip :=
  let lines := Text.lines text
  shadowed false (ofLines colour (min (total lines) room) lines)

end Strip

/-- A strip from a rectangle's first place on, cut off at its edges. -/
def Layer.strip (area : Area) (strip : Strip) : Layer := fun column row =>
  if area.contains column row && row = area.top then strip[column - area.left]?.join else none

/-- A strip covers nothing outside its rectangle. -/
theorem Layer.strip_outside {area : Area} {strip : Strip} {column row : Nat}
    (outside : area.contains column row = false) : Layer.strip area strip column row = none := by
  -- The rectangle is asked before the strip.
  simp [Layer.strip, outside]

/-- The cells of a row that none before them hides. -/
def uncovered : List Cell → List Cell
  | [] => []
  | cell :: rest => cell :: uncovered (rest.drop (Text.columns cell.text - 1))
termination_by cells => cells.length
decreasing_by
  -- Dropping cells of the rest leaves fewer than there were with the first.
  simp only [List.length_drop, List.length_cons]
  omega

/-- What a terminal of the given size is sent row by row, where a wide character moves it on. -/
def sent (layers : List Layer) (width height : Nat) : List String :=
  (List.range height).map fun row =>
    String.ofList ((uncovered (rowCells layers width row)).flatMap Cell.text)

end ChipEight.Terminal
