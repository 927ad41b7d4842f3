/-! The monochrome screen of 64 by 32 pixels, on which sprites are drawn by exclusive or. -/

namespace ChipEight

/-- The pixels of the screen and whether the host should show them again. -/
structure Screen where
  /-- Whether each pixel is lit, row by row from the top and each row from the left. -/
  cells : Vector Bool 2048
  /-- Raised by everything that may change pixels, lowered by the host. -/
  redraw : Bool
deriving DecidableEq

namespace Screen

/-- The screen at power-on, dark and with nothing to show. -/
def blank : Screen where
  cells := Vector.replicate 2048 false
  redraw := false

/-- Whether a pixel is lit, and never outside the screen. -/
def pixel (screen : Screen) (x y : Nat) : Bool :=
  if within : x < 64 ∧ y < 32 then screen.cells[y * 64 + x] else false

/-- The pixels of the row at a height, from the left. -/
def row (screen : Screen) (y : Nat) : List Bool :=
  (List.range 64).map fun x => screen.pixel x y

/-- Darkens every pixel and asks for a redraw. -/
def clear (_ : Screen) : Screen where
  cells := Vector.replicate 2048 false
  redraw := true

/-- Asks for a redraw. -/
def askRedraw (screen : Screen) : Screen :=
  { screen with redraw := true }

/-- Notes that the host has shown the screen. -/
def markShown (screen : Screen) : Screen :=
  { screen with redraw := false }

/-- Switches a pixel on if it was off, and off if it was on. -/
def toggle (screen : Screen) (x : Fin 64) (y : Fin 32) : Screen :=
  let place := y.val * 64 + x.val
  { screen with cells := screen.cells.set place (!screen.cells[place]) }

/-- A screen that is being drawn on, and whether a lit pixel has been switched off so far. -/
abbrev Canvas := Screen × Bool

/-- Draws the lowest `count` bits of a byte, the highest of them first, from a column to the right
and no further than the edge of the screen. -/
def drawBits (byte : UInt8) (y : Fin 32) (column : Nat) : (count : Nat) → Canvas → Canvas
  | 0, canvas => canvas
  | count + 1, (screen, collided) =>
    if within : column < 64 then
      if byte.toNat.testBit count then
        -- The pixel is looked at before it is toggled.
        let lit := screen.pixel column y.val
        drawBits byte y (column + 1) count (screen.toggle ⟨column, within⟩ y, collided || lit)
      else
        drawBits byte y (column + 1) count (screen, collided)
    else
      (screen, collided)

/-- Draws the rows of a sprite from a height down and no further than the edge of the screen. -/
def drawRows (left height : Nat) : (bytes : List UInt8) → Canvas → Canvas
  | [], canvas => canvas
  | byte :: rest, canvas =>
    if within : height < 32 then
      drawRows left (height + 1) rest (drawBits byte ⟨height, within⟩ left 8 canvas)
    else
      canvas

/-- Toggles the pixels of a sprite, its origin taken round the screen, and tells whether one of
them had been lit. -/
def draw (screen : Screen) (x y : Nat) (bytes : List UInt8) : Screen × Bool :=
  -- The origin is taken round the screen once, and the rows that pass an edge are cut off.
  let (drawn, collided) := drawRows (x % 64) (y % 32) bytes (screen, false)
  (drawn.askRedraw, collided)

/-- The number of lit pixels. -/
def lit (screen : Screen) : Nat :=
  screen.cells.toList.countP id

/-- The screen as 32 lines of 64 characters, a full block for each lit pixel. -/
def picture (screen : Screen) : List (List Char) :=
  (List.range 32).map fun y =>
    (screen.row y).map fun lit => if lit then '█' else ' '

/-- The lines of a picture as one text, each ended by a line feed. -/
def text (lines : List (List Char)) : String :=
  String.join (lines.map fun line => String.ofList line ++ "\n")

/-- What a host can do to the screen. -/
inductive Event where
  /-- A sprite is drawn. -/
  | draw (x y : Nat) (bytes : List UInt8)
  /-- Every pixel is darkened. -/
  | clear
  /-- The redraw flag is lowered. -/
  | markShown
deriving DecidableEq

/-- The screen after a host event. -/
def apply (screen : Screen) : Event → Screen
  | .draw x y bytes => (screen.draw x y bytes).1
  | .clear => screen.clear
  | .markShown => screen.markShown

/-- Screens that show the same pixels and agree on the redraw flag are the same. -/
@[ext] theorem ext {first second : Screen}
    (same : ∀ x < 64, ∀ y < 32, first.pixel x y = second.pixel x y)
    (flag : first.redraw = second.redraw) : first = second := by
  -- Every place of the buffer is the pixel at its remainder and quotient by the width.
  obtain ⟨left, raised⟩ := first
  obtain ⟨right, shown⟩ := second
  have cells : left = right := Vector.ext fun place within => by
    have column : place % 64 < 64 := Nat.mod_lt _ (by decide)
    have height : place / 64 < 32 := by omega
    have position : place / 64 * 64 + place % 64 = place := Nat.div_add_mod' place 64
    simpa [pixel, column, height, position] using same (place % 64) column (place / 64) height
  cases cells
  cases flag
  rfl

/-- No pixel of the blank screen is lit. -/
@[simp] theorem pixel_blank (x y : Nat) : blank.pixel x y = false := by
  -- Inside the screen the pixel is the repeated dark one.
  simp [pixel, blank]

/-- Asking for a redraw leaves the pixels alone. -/
@[simp] theorem pixel_askRedraw (screen : Screen) (x y : Nat) :
    screen.askRedraw.pixel x y = screen.pixel x y := rfl

/-- Showing the screen leaves the pixels alone. -/
@[simp] theorem pixel_markShown (screen : Screen) (x y : Nat) :
    screen.markShown.pixel x y = screen.pixel x y := rfl

/-- Nothing is lit outside the screen. -/
theorem pixel_of_not_within (screen : Screen) {x y : Nat} (outside : ¬ (x < 64 ∧ y < 32)) :
    screen.pixel x y = false := dif_neg outside

/-- Toggling changes one pixel and no other. -/
theorem pixel_toggle (screen : Screen) (column : Fin 64) (height : Fin 32) (x y : Nat) :
    (screen.toggle column height).pixel x y =
      (screen.pixel x y ^^ decide (x = column.val ∧ y = height.val)) := by
  -- Two pixels of the screen share a place only if they are the same pixel.
  by_cases within : x < 64 ∧ y < 32
  · have position : height.val * 64 + column.val = y * 64 + x ↔ x = column.val ∧ y = height.val := by
      omega
    simp only [pixel, toggle, within, and_self, dite_true, Vector.getElem_set, position]
    by_cases same : x = column.val ∧ y = height.val
    · obtain ⟨rfl, rfl⟩ := same
      simp
    · simp [same]
  · have apart : ¬ (x = column.val ∧ y = height.val) := by omega
    rw [pixel_of_not_within _ within, pixel_of_not_within _ within]
    simp [apart]

/-- Drawing asks for a redraw, whatever the sprite. -/
@[simp] theorem redraw_draw (screen : Screen) (x y : Nat) (bytes : List UInt8) :
    (screen.draw x y bytes).1.redraw = true := rfl

end Screen

end ChipEight
