import ChipEight.Console
import ChipEight.Proofs.Terminal.Layer

/-! The terminal shows the pixels of the screen in a frame, from which they can be read back. -/

namespace ChipEight

open Terminal (Layer shown_nil shown_cons_of_none shown_cons_of_some)

/-- A line without an end of its own that a line feed ends comes before the lines of the rest. -/
theorem Text.lines_append_lineFeed {line : List Char} (plain : ∀ c ∈ line, c ≠ '\n' ∧ c ≠ '\r')
    (rest : List Char) : lines (line ++ '\n' :: rest) = line :: lines rest := by
  -- Each character of the line goes in front of the line that those after it make.
  induction line with
  | nil => simp [lines]
  | cons c line ih =>
    obtain ⟨⟨feed, carriage⟩, later⟩ := List.forall_mem_cons.mp plain
    rw [List.cons_append, lines, ih later]
    · simp [feed]
    · simp [carriage]

namespace Screen

variable {screen : Screen}

/-- A picture of lines that hold no line end is the lines of its text. -/
theorem lines_text {picture : List (List Char)}
    (plain : ∀ line ∈ picture, ∀ c ∈ line, c ≠ '\n' ∧ c ≠ '\r') :
    Text.lines (text picture).toList = picture := by
  -- The text begins with the first line and its line feed.
  induction picture with
  | nil => rfl
  | cons line rest ih =>
    obtain ⟨first, later⟩ := List.forall_mem_cons.mp plain
    have split : (text (line :: rest)).toList = line ++ '\n' :: (text rest).toList := by
      simp [text, String.toList_join]
    rw [split, Text.lines_append_lineFeed first, ih later]

/-- A picture of the screen has no character but the full block and the space. -/
theorem picture_plain (screen : Screen) :
    ∀ line ∈ screen.picture, ∀ c ∈ line, c ≠ '\n' ∧ c ≠ '\r' := by
  -- Each character is made of one pixel.
  simp only [picture, List.mem_map]
  rintro line ⟨y, -, rfl⟩ c member
  obtain ⟨lit, -, rfl⟩ := List.mem_map.mp member
  cases lit <;> decide

/-- A picture of the screen has the character of a pixel at its column of its line. -/
theorem exists_line_picture {x y : Nat} (column : x < 64) (height : y < 32) :
    ∃ letters, screen.picture[y]? = some letters ∧
      letters[x]? = some (if screen.pixel x y then '█' else ' ') := by
  -- The line is the row of pixels at that height, each pixel turned into its character.
  refine ⟨(screen.row y).map fun lit => if lit then '█' else ' ', ?_, ?_⟩
  · simp [picture, height]
  · simp [row, column]

/-- The pixels that rows of characters show in a frame whose left side is at the given column and
whose upper side is the first row, a full block standing for a lit one. -/
def readBack (left : Nat) (rows : List String) : Vector Bool 2048 :=
  Vector.ofFn fun place =>
    Terminal.glyph? rows (left + 1 + place.val % 64) (1 + place.val / 64) = some '█'

/-- What has a full block for each lit pixel and something else for each dark one is read back as
the pixels of the screen. -/
theorem readBack_eq_cells {left : Nat} {rows : List String}
    (drawn : ∀ x < 64, ∀ y < 32, Terminal.glyph? rows (left + 1 + x) (1 + y) =
      some (if screen.pixel x y then '█' else ' ')) :
    readBack left rows = screen.cells := by
  -- Every place of the buffer is the pixel at its remainder and quotient by the width.
  refine Vector.ext fun place within => ?_
  have column : place % 64 < 64 := Nat.mod_lt _ (by decide)
  have height : place / 64 < 32 := by omega
  have position : place / 64 * 64 + place % 64 = place := Nat.div_add_mod' place 64
  have pixel : screen.pixel (place % 64) (place / 64) = screen.cells[place] := by
    simp [Screen.pixel, column, height, position]
  simp only [readBack, Vector.getElem_ofFn, drawn _ column _ height, pixel]
  cases screen.cells[place] <;> decide

/--
A terminal of the given width shows the screen in a frame that begins at the column `left` of the
first row and has the given breadth.

The pixels are shown as far as there is room between the two sides of the frame, and beside the frame
there is nothing.
-/
structure ShownIn (screen : Screen) (left breadth width : Nat)
    (cell : Nat → Nat → Option Terminal.Cell) : Prop where
  /-- A lit pixel is a full block, and a dark one is a space. -/
  pixels : ∀ x y, x < min 64 (breadth - 2) → y < 32 → cell (left + 1 + x) (1 + y) =
    some { glyph := if screen.pixel x y then '█' else ' ', colour := .white }
  /-- The sides of the frame are upright bars, whatever the pixels. -/
  sides : ∀ column row, column = left ∨ column = left + breadth - 1 → 1 ≤ row → row ≤ 32 →
    (cell column row).map Terminal.Cell.text = some ['│']
  /-- Beside the frame every cell is blank. -/
  beside : ∀ column row, column < width → row ≤ 33 → column < left ∨ left + breadth ≤ column →
    cell column row = some .blank

end Screen

namespace Console

variable {console : Console} {width column row : Nat}

/-- The screen's box is on the terminal from its left side to its right one. -/
theorem gameArea_fits (width : Nat) : (gameArea width).left + (gameArea width).width ≤ width := by
  -- If there is more room than it needs, about half of that is on its left.
  simp only [gameArea]
  split <;> omega

/-- The keyboard's box covers nothing above it. -/
theorem shown_legend (above : row < 34) :
    let legend := legendArea width
    Terminal.shown
      [.text legend.heading .yellow ["Keypad".toList], .border legend .yellow,
        .centred legend.inner .yellow (Keyboard.legend.map String.toList)] column row = .blank := by
  -- All three layers keep to the box, which begins below.
  have outside : (legendArea width).contains column row = false := by
    rw [← Bool.not_eq_true, Terminal.Area.contains_iff]
    simp only [legendArea]
    omega
  have heading := Terminal.Area.heading_outside (by simp [legendArea]) outside
  have inner := Terminal.Area.inner_outside outside
  intro legend
  rw [shown_cons_of_none (Layer.text_outside heading),
    shown_cons_of_none (Layer.border_outside outside),
    shown_cons_of_none (Layer.centred_outside inner), shown_nil]

/-- Within the frame a terminal shows the pixels of the picture. -/
theorem shown_pixel (kept : console.picture = console.machine.hardware.screen.picture) {x y : Nat}
    (inside : x < min 64 ((gameArea width).width - 2)) (height : y < 32) :
    Terminal.shown (console.layers width) ((gameArea width).left + 1 + x) (1 + y) =
      { glyph := if console.machine.hardware.screen.pixel x y then '█' else ' ', colour := .white } := by
  -- The title is above, the border is around, and the text is there.
  have within : (gameArea width).inner.contains ((gameArea width).left + 1 + x) (1 + y) = true := by
    rw [Terminal.Area.contains_iff]
    simp only [Terminal.Area.inner, gameArea] at inside ⊢
    omega
  have below : 1 + y ≠ (gameArea width).heading.top := Nat.ne_of_gt (Nat.add_pos_left Nat.one_pos y)
  obtain ⟨letters, line, letter⟩ :=
    @Screen.exists_line_picture console.machine.hardware.screen x y (by omega) height
  rw [← kept] at line
  rw [layers, shown_cons_of_none (Layer.strip_below below),
    shown_cons_of_none (Layer.border_inner within)]
  exact shown_cons_of_some (Layer.text_inside within
    (by simpa [Terminal.Area.inner, gameArea] using line)
    (by simpa [Terminal.Area.inner] using letter))

/-- The sides of the frame are upright bars. -/
theorem shown_side (wide : 1 ≤ width) (below : 1 ≤ row) (above : row ≤ 32)
    (side : column = (gameArea width).left ∨
      column = (gameArea width).left + (gameArea width).width - 1) :
    Terminal.shown (console.layers width) column row =
      { glyph := '│', colour := console.gameColour } := by
  -- The title is in the first row only, so that nothing is in front of the border.
  have under : row ≠ (gameArea width).heading.top := Nat.ne_of_gt below
  have frame : 1 ≤ (gameArea width).width := by
    simp only [gameArea]
    omega
  have between : row < (gameArea width).top + (gameArea width).height - 1 := by
    simp only [gameArea]
    omega
  rw [layers, shown_cons_of_none (Layer.strip_below under)]
  exact shown_cons_of_some (Layer.border_side frame below between side)

/-- Beside the frame nothing is shown. -/
theorem shown_beside (above : row ≤ 33)
    (beside : column < (gameArea width).left ∨
      (gameArea width).left + (gameArea width).width ≤ column) :
    Terminal.shown (console.layers width) column row = .blank := by
  -- Title, border and picture keep to the screen's box, and the keyboard's box is below.
  have outside : (gameArea width).contains column row = false := by
    rw [← Bool.not_eq_true, Terminal.Area.contains_iff]
    omega
  have heading := Terminal.Area.heading_outside (by simp [gameArea]) outside
  have inner := Terminal.Area.inner_outside outside
  rw [layers, shown_cons_of_none (Layer.strip_outside heading),
    shown_cons_of_none (Layer.border_outside outside),
    shown_cons_of_none (Layer.text_outside inner)]
  exact shown_legend (by omega)

/-- Below the first row no character is shown with marks. -/
theorem marks_shown_layers (below : 1 ≤ row) :
    (Terminal.shown (console.layers width) column row).marks = [] := by
  -- Only the title can have marks, and it is in the first row.
  apply Terminal.marks_shown
  simp only [layers, List.forall_mem_cons]
  have under : row ≠ (gameArea width).heading.top := Nat.ne_of_gt below
  exact ⟨Layer.bare_of_eq_none (Layer.strip_below under), Layer.bare_border, Layer.bare_text,
    Layer.bare_text, Layer.bare_border, Layer.bare_centred, by simp⟩

/-- A terminal shows an up-to-date picture in the frame of the screen. -/
theorem shownIn (kept : console.picture = console.machine.hardware.screen.picture) {height : Nat}
    (wide : 40 ≤ width) (tall : 41 ≤ height) :
    console.machine.hardware.screen.ShownIn (gameArea width).left (gameArea width).width width
      (Terminal.cell? (console.layers width) width height) := by
  -- The frame is on the terminal, so that each place of it has a cell.
  have fits : (gameArea width).left + (gameArea width).width ≤ width := gameArea_fits width
  have broad : 1 ≤ (gameArea width).width := by
    simp only [gameArea]
    omega
  constructor
  case pixels =>
    intro x y inside low
    rw [Terminal.cell?, if_pos (by omega), shown_pixel kept inside low]
  case sides =>
    intro column row side below above
    rw [Terminal.cell?, if_pos (by omega), shown_side (by omega) below above side]
    rfl
  case beside =>
    intro column row within above beside
    rw [Terminal.cell?, if_pos (by omega), shown_beside above beside]

/-- On a terminal with room for every pixel an up-to-date picture is read back as the screen. -/
theorem readBack_rows (kept : console.picture = console.machine.hardware.screen.picture)
    {height : Nat} (wide : 66 ≤ width) (tall : 41 ≤ height) :
    Screen.readBack (gameArea width).left
      (Terminal.rows (console.layers width) width height) = console.machine.hardware.screen.cells := by
  -- The frame has room for all 64 columns, and no cell in it has marks.
  have whole : (gameArea width).width = 66 := Nat.min_eq_right wide
  have shows := shownIn kept (by omega : 40 ≤ width) tall
  apply Screen.readBack_eq_cells
  intro x column y low
  rw [Terminal.glyph?_rows fun _ => marks_shown_layers (by omega),
    shows.pixels x y (by omega) low]
  rfl

/--
A terminal shows the screen of a session whose picture is up to date, in a frame that is as broad as
the screen and in the middle if there is more room, and from the left edge to the right one if not.

The picture is also what the lines of its text are. Where the frame has room for every pixel, the
characters on the terminal give the whole screen back, so that two sessions look the same only if
their screens have the same pixels.
-/
theorem terminal_shows_the_screen (console : Console) (width height : Nat)
    (kept : console.picture = console.machine.hardware.screen.picture)
    (wide : 40 ≤ width) (tall : 41 ≤ height) :
    let left := if 66 < width then (width - 66 + 1) / 2 else 0
    let rows := Terminal.rows (console.layers width) width height
    console.machine.hardware.screen.ShownIn left (min width 66) width
        (Terminal.cell? (console.layers width) width height) ∧
      Text.lines (Screen.text console.picture).toList = console.picture ∧
      (66 ≤ width → Screen.readBack left rows = console.machine.hardware.screen.cells ∧
        ∀ other : Console, other.picture = other.machine.hardware.screen.picture →
          Terminal.rows (other.layers width) width height = rows → ∀ x y,
            other.machine.hardware.screen.pixel x y = console.machine.hardware.screen.pixel x y) := by
  refine ⟨shownIn kept wide tall, ?_, fun room => ⟨readBack_rows kept room tall, ?_⟩⟩
  · -- The picture that is kept is the one that was made of the screen.
    rw [kept]
    exact Screen.lines_text (Screen.picture_plain _)
  · intro other keptToo same x y
    -- What is read back off the same rows is the same for both.
    have cells := (readBack_rows keptToo room tall).symm.trans
      ((congrArg _ same).trans (readBack_rows kept room tall))
    simp only [Screen.pixel, cells]

/-- The last pixel is lit on a terminal with one column to spare, which is on the left of the frame.
The block is left of the right side of the frame. -/
theorem terminal_shows_the_screen_of_last_pixel :
    ∃ console : Console,
      console = ofMachine ((Machine.powerOn 7).setScreen (.draw 63 31 [0x80]))
        ⟨"a.ch8", 60, 700, none⟩ ∧
      console.machine.hardware.screen.pixel 63 31 = true ∧
      Terminal.cell? (console.layers 67) 67 41 65 32 = some { glyph := '█', colour := .white } ∧
      (Terminal.cell? (console.layers 67) 67 41 66 32).map Terminal.Cell.text = some ['│'] ∧
      Terminal.cell? (console.layers 67) 67 41 0 32 = some .blank ∧
      Screen.readBack 1 (Terminal.rows (console.layers 67) 67 41) =
        console.machine.hardware.screen.cells := by
  -- The picture of a session that has just been made is up to date.
  let console := ofMachine ((Machine.powerOn 7).setScreen (.draw 63 31 [0x80]))
    ⟨"a.ch8", 60, 700, none⟩
  have lit : console.machine.hardware.screen.pixel 63 31 = true := by decide +kernel
  obtain ⟨shows, -, whole⟩ := terminal_shows_the_screen console 67 41 rfl (by decide) (by decide)
  have block := shows.pixels 63 31 (by decide) (by decide)
  rw [lit] at block
  exact ⟨console, rfl, lit, block, shows.sides 66 32 (.inr rfl) (by decide) (by decide),
    shows.beside 0 32 (by decide) (by decide) (.inl (by decide)), (whole (by decide)).1⟩

end Console

end ChipEight
