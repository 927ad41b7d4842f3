import ChipEight.Screen

/-! Drawing a sprite toggles exactly the pixels under its set bits, as far as they are on screen. -/

namespace ChipEight.Screen

/-- Whether one of the lowest `count` bits of a byte, the highest of them at a column and the others
to its right, is set at the column `x`. -/
def bitCovers (byte : UInt8) (column count x : Nat) : Bool :=
  if column ≤ x ∧ x < column + count then byte.toNat.testBit (column + count - 1 - x) else false

/-- Whether the sprite whose corner is at a column and a height has a set bit at a pixel, the highest
bit of each byte being its leftmost. -/
def covers (left height : Nat) (bytes : List UInt8) (x y : Nat) : Bool :=
  if left ≤ x ∧ x < left + 8 ∧ height ≤ y ∧ y < height + bytes.length then
    (bytes[y - height]?.getD 0).toNat.testBit (7 - (x - left))
  else
    false

/-- Bits cover only as many columns as they are, from the first one on. -/
theorem bitCovers_of_outside {byte : UInt8} {column count x : Nat}
    (outside : x < column ∨ column + count ≤ x) : bitCovers byte column count x = false := by
  have missed : ¬ (column ≤ x ∧ x < column + count) := by omega
  rw [bitCovers, if_neg missed]

/-- The first of some bits covers the first column, and the others cover the columns behind it. -/
theorem bitCovers_succ (byte : UInt8) (column count x : Nat) :
    bitCovers byte column (count + 1) x =
      if x = column then byte.toNat.testBit count else bitCovers byte (column + 1) count x := by
  -- Dropping the first bit moves the column on and leaves the end of the bits where it is.
  by_cases first : x = column
  · have inside : column ≤ x ∧ x < column + (count + 1) := by omega
    have bit : column + (count + 1) - 1 - x = count := by omega
    rw [bitCovers, if_pos inside, if_pos first, bit]
  · have bounds : (column ≤ x ∧ x < column + (count + 1)) ↔
        (column + 1 ≤ x ∧ x < column + 1 + count) := by omega
    have bit : column + (count + 1) - 1 - x = column + 1 + count - 1 - x := by omega
    simp only [bitCovers, bounds, bit, first, if_false]

/-- A sprite covers only the eight columns from its corner on and as many heights as it has rows. -/
theorem covers_of_outside {left height : Nat} {bytes : List UInt8} {x y : Nat}
    (outside : x < left ∨ left + 8 ≤ x ∨ y < height ∨ height + bytes.length ≤ y) :
    covers left height bytes x y = false := by
  -- One of the four bounds is not met.
  have missed : ¬ (left ≤ x ∧ x < left + 8 ∧ height ≤ y ∧ y < height + bytes.length) := by omega
  rw [covers, if_neg missed]

/-- A sprite covers a pixel if it reaches it and has a set bit there. -/
theorem covers_eq_true_iff {left height : Nat} {bytes : List UInt8} {x y : Nat} :
    covers left height bytes x y = true ↔
      (left ≤ x ∧ x < left + 8 ∧ height ≤ y ∧ y < height + bytes.length) ∧
        (bytes[y - height]?.getD 0).toNat.testBit (7 - (x - left)) = true := by
  -- Out of its reach a sprite covers nothing, so the test is a conjunction.
  rw [covers, Bool.ite_eq_true_distrib]
  simp

/-- A sprite without rows covers nothing. -/
theorem covers_nil (left height x y : Nat) : covers left height [] x y = false := by
  -- The rows would end on the height on which they start.
  apply covers_of_outside
  rw [List.length_nil]
  omega

/-- The first row of a sprite covers its height, and the others cover what is below. -/
theorem covers_cons (left height : Nat) (byte : UInt8) (rest : List UInt8) (x y : Nat) :
    covers left height (byte :: rest) x y =
      if y = height then bitCovers byte left 8 x else covers left (height + 1) rest x y := by
  rw [covers, List.length_cons]
  by_cases first : y = height
  · -- On its own height the first row is the byte at position zero.
    have row : (byte :: rest)[y - height]?.getD 0 = byte := by simp [first]
    rw [if_pos first, row, bitCovers]
    by_cases inside : left ≤ x ∧ x < left + 8
    · have reached : left ≤ x ∧ x < left + 8 ∧ height ≤ y ∧ y < height + (rest.length + 1) := by
        omega
      have bit : 7 - (x - left) = left + 8 - 1 - x := by omega
      rw [if_pos reached, if_pos inside, bit]
    · have missed : ¬ (left ≤ x ∧ x < left + 8 ∧ height ≤ y ∧ y < height + (rest.length + 1)) := by
        omega
      rw [if_neg missed, if_neg inside]
  · -- Elsewhere the rows count from one height farther down.
    rw [if_neg first, covers]
    by_cases inside : left ≤ x ∧ x < left + 8 ∧ height + 1 ≤ y ∧ y < height + 1 + rest.length
    · have reached : left ≤ x ∧ x < left + 8 ∧ height ≤ y ∧ y < height + (rest.length + 1) := by
        omega
      have position : y - height = (y - (height + 1)) + 1 := by omega
      rw [if_pos reached, if_pos inside, position, List.getElem?_cons_succ]
    · have missed : ¬ (left ≤ x ∧ x < left + 8 ∧ height ≤ y ∧ y < height + (rest.length + 1)) := by
        omega
      rw [if_neg missed, if_neg inside]

/-- Drawing bits on a row toggles exactly the pixels that they cover. -/
theorem pixel_drawBits (byte : UInt8) (height : Fin 32) (column count : Nat) (canvas : Canvas)
    (x y : Nat) (within : x < 64) :
    (drawBits byte height column count canvas).1.pixel x y =
      (canvas.1.pixel x y ^^ (decide (y = height.val) && bitCovers byte column count x)) := by
  -- The first bit is drawn on its column, and all others on columns behind it.
  induction count generalizing column canvas with
  | zero =>
    have missed : bitCovers byte column 0 x = false := bitCovers_of_outside (by omega)
    simp [drawBits, missed]
  | succ count ih =>
    obtain ⟨screen, collided⟩ := canvas
    rw [bitCovers_succ]
    simp only [drawBits]
    by_cases inside : column < 64
    · simp only [inside, dite_true]
      cases set : byte.toNat.testBit count with
      | false =>
        -- A clear bit leaves its column alone.
        simp only [Bool.false_eq_true, if_false]
        rw [ih]
        by_cases first : x = column
        · rw [if_pos first, bitCovers_of_outside (by omega)]
        · rw [if_neg first]
      | true =>
        -- A set bit toggles its column, and the bits behind it do not come back to it.
        simp only [if_true]
        rw [ih, pixel_toggle]
        by_cases first : x = column
        · rw [if_pos first, bitCovers_of_outside (by omega)]
          simp [first]
        · rw [if_neg first]
          simp [first]
    · -- Past the edge there is no column left that the bits could cover.
      have before : x < column := by omega
      have apart : x ≠ column := by omega
      have behind : x < column + 1 := by omega
      simp [inside, apart, bitCovers_of_outside (.inl behind)]

/-- Drawing bits on a row collides exactly where they cover a pixel that was lit. -/
theorem collided_drawBits (byte : UInt8) (height : Fin 32) (column count : Nat)
    (canvas : Canvas) :
    (drawBits byte height column count canvas).2 = true ↔
      canvas.2 = true ∨ ∃ x, x < 64 ∧ bitCovers byte column count x = true ∧
        canvas.1.pixel x height.val = true := by
  -- No bit is drawn where an earlier one was, so each of them meets the pixel as it was at first.
  induction count generalizing column canvas with
  | zero =>
    have missed : ∀ x, bitCovers byte column 0 x = false := fun x =>
      bitCovers_of_outside (by omega)
    simp [drawBits, missed]
  | succ count ih =>
    obtain ⟨screen, collided⟩ := canvas
    simp only [drawBits]
    by_cases inside : column < 64
    · simp only [inside, dite_true]
      cases set : byte.toNat.testBit count with
      | false =>
        -- A clear bit covers no column, so the others cover the same ones without it.
        have same : ∀ x, bitCovers byte column (count + 1) x =
            bitCovers byte (column + 1) count x := by
          intro x
          rw [bitCovers_succ]
          by_cases first : x = column
          · rw [if_pos first, bitCovers_of_outside (by omega), set]
          · rw [if_neg first]
        simp only [Bool.false_eq_true, if_false]
        rw [ih]
        simp only [same]
      | true =>
        -- Where the other bits are drawn the pixels are still those of the beginning.
        have untouched : ∀ x, bitCovers byte (column + 1) count x = true →
            x ≠ column ∧ (screen.toggle ⟨column, inside⟩ height).pixel x height.val =
              screen.pixel x height.val := by
          intro x covered
          have apart : x ≠ column := by
            intro first
            rw [bitCovers_of_outside (by omega)] at covered
            cases covered
          refine ⟨apart, ?_⟩
          rw [pixel_toggle]
          simp [apart]
        simp only [if_true]
        rw [ih, Bool.or_eq_true]
        -- A lit pixel is met on this column or by one of the other bits.
        constructor
        · rintro ((earlier | lit) | ⟨x, within, covered, lit⟩)
          · exact .inl earlier
          · refine .inr ⟨column, inside, ?_, lit⟩
            rw [bitCovers_succ, if_pos rfl, set]
          · obtain ⟨apart, same⟩ := untouched x covered
            refine .inr ⟨x, within, ?_, same.symm.trans lit⟩
            rw [bitCovers_succ, if_neg apart, covered]
        · rintro (earlier | ⟨x, within, covered, lit⟩)
          · exact .inl (.inl earlier)
          · rw [bitCovers_succ] at covered
            by_cases first : x = column
            · subst first
              exact .inl (.inr lit)
            · rw [if_neg first] at covered
              obtain ⟨-, same⟩ := untouched x covered
              exact .inr ⟨x, within, covered, same.trans lit⟩
    · -- Past the edge there is no column left that the bits could cover.
      simp only [inside, dite_false]
      constructor
      · intro earlier
        exact .inl earlier
      · rintro (earlier | ⟨x, within, covered, lit⟩)
        · exact earlier
        · rw [bitCovers_of_outside (by omega)] at covered
          cases covered

/-- Drawing rows toggles exactly the pixels that they cover. -/
theorem pixel_drawRows (left height : Nat) (bytes : List UInt8) (canvas : Canvas) (x y : Nat)
    (column : x < 64) (row : y < 32) :
    (drawRows left height bytes canvas).1.pixel x y =
      (canvas.1.pixel x y ^^ covers left height bytes x y) := by
  -- Each row is drawn on its own height, and the rest of the sprite below it.
  induction bytes generalizing height canvas with
  | nil => simp [drawRows, covers_nil]
  | cons byte rest ih =>
    simp only [drawRows]
    rw [covers_cons]
    by_cases inside : height < 32
    · simp only [inside, dite_true]
      rw [ih, pixel_drawBits _ _ _ _ _ _ _ column]
      -- A pixel is on the first row or on one of the others, never on both.
      by_cases first : y = height
      · rw [if_pos first, covers_of_outside (by omega)]
        simp [first]
      · rw [if_neg first]
        simp [first]
    · -- Past the edge there is no height left that the rows could cover.
      have above : y < height + 1 := by omega
      have apart : y ≠ height := by omega
      simp [inside, apart, covers_of_outside (.inr (.inr (.inl above)))]

/-- Drawing rows collides exactly where they cover a pixel that was lit. -/
theorem collided_drawRows (left height : Nat) (bytes : List UInt8) (canvas : Canvas) :
    (drawRows left height bytes canvas).2 = true ↔
      canvas.2 = true ∨ ∃ x y, x < 64 ∧ y < 32 ∧ covers left height bytes x y = true ∧
        canvas.1.pixel x y = true := by
  -- No row is drawn where an earlier one was, so each of them meets its pixels as they were.
  induction bytes generalizing height canvas with
  | nil => simp [drawRows, covers_nil]
  | cons byte rest ih =>
    simp only [drawRows]
    by_cases inside : height < 32
    · -- Where the other rows are drawn the pixels are still those of the beginning.
      have untouched : ∀ x y, x < 64 → covers left (height + 1) rest x y = true →
          y ≠ height ∧ (drawBits byte ⟨height, inside⟩ left 8 canvas).1.pixel x y =
            canvas.1.pixel x y := by
        intro x y within covered
        have apart : y ≠ height := by
          intro first
          rw [covers_of_outside (by omega)] at covered
          cases covered
        -- The first row toggles pixels of its own height only.
        refine ⟨apart, ?_⟩
        rw [pixel_drawBits _ _ _ _ _ _ _ within]
        simp [apart]
      simp only [inside, dite_true]
      rw [ih, collided_drawBits]
      -- A lit pixel is met by the first row or by one of the others.
      constructor
      · rintro ((earlier | ⟨x, within, covered, lit⟩) | ⟨x, y, within, row, covered, lit⟩)
        · exact .inl earlier
        · refine .inr ⟨x, height, within, inside, ?_, lit⟩
          rw [covers_cons, if_pos rfl, covered]
        · obtain ⟨apart, same⟩ := untouched x y within covered
          refine .inr ⟨x, y, within, row, ?_, same.symm.trans lit⟩
          rw [covers_cons, if_neg apart, covered]
      · rintro (earlier | ⟨x, y, within, row, covered, lit⟩)
        · exact .inl (.inl earlier)
        · rw [covers_cons] at covered
          by_cases first : y = height
          · subst first
            rw [if_pos rfl] at covered
            exact .inl (.inr ⟨x, within, covered, lit⟩)
          · rw [if_neg first] at covered
            obtain ⟨-, same⟩ := untouched x y within covered
            exact .inr ⟨x, y, within, row, covered, same.trans lit⟩
    · -- Past the edge there is no height left that the rows could cover.
      simp only [inside, dite_false]
      constructor
      · intro earlier
        exact .inl earlier
      · rintro (earlier | ⟨x, y, within, row, covered, lit⟩)
        · exact earlier
        · rw [covers_of_outside (by omega)] at covered
          cases covered

/-- A draw toggles exactly the pixels that the sprite covers with its origin taken round the screen. -/
theorem pixel_draw (screen : Screen) (x y : Nat) (sprite : List UInt8) {column row : Nat}
    (within : column < 64) (above : row < 32) :
    (screen.draw x y sprite).1.pixel column row =
      (screen.pixel column row ^^ covers (x % 64) (y % 32) sprite column row) :=
  pixel_drawRows (x % 64) (y % 32) sprite (screen, false) column row within above

/-- A draw collides exactly where the sprite covers a pixel that was lit. -/
theorem collided_draw (screen : Screen) (x y : Nat) (sprite : List UInt8) :
    (screen.draw x y sprite).2 = true ↔
      ∃ column row, column < 64 ∧ row < 32 ∧ covers (x % 64) (y % 32) sprite column row = true ∧
        screen.pixel column row = true := by
  -- No collision comes from before the first row.
  have collided := collided_drawRows (x % 64) (y % 32) sprite (screen, false)
  simp only [Bool.false_eq_true, false_or] at collided
  exact collided

/-- Drawing toggles the pixels on screen that the sprite covers, tells whether one of them was lit,
asks for a redraw, and leaves all other pixels alone, so that nothing comes back in at the edge
opposite to the one where it left. -/
theorem draw_toggles_covered (screen : Screen) (x y : Nat) (sprite : List UInt8) :
    (∀ column row, column < 64 → row < 32 →
      (screen.draw x y sprite).1.pixel column row =
        (screen.pixel column row ^^ covers (x % 64) (y % 32) sprite column row)) ∧
    ((screen.draw x y sprite).2 = true ↔
      ∃ column row, column < 64 ∧ row < 32 ∧ screen.pixel column row = true ∧
        covers (x % 64) (y % 32) sprite column row = true) ∧
    (screen.draw x y sprite).1.redraw = true ∧
    (∀ column row, column < x % 64 ∨ x % 64 + 8 ≤ column ∨ row < y % 32 ∨
        y % 32 + sprite.length ≤ row →
      (screen.draw x y sprite).1.pixel column row = screen.pixel column row) := by
  -- What is drawn row by row is the whole sprite, and the request for a redraw changes no pixel.
  have toggled : ∀ column row, column < 64 → row < 32 →
      (screen.draw x y sprite).1.pixel column row =
        (screen.pixel column row ^^ covers (x % 64) (y % 32) sprite column row) := by
    intro column row within above
    exact pixel_drawRows (x % 64) (y % 32) sprite (screen, false) column row within above
  refine ⟨toggled, ?_, redraw_draw screen x y sprite, ?_⟩
  · have collided := collided_drawRows (x % 64) (y % 32) sprite (screen, false)
    constructor
    · intro met
      -- No collision comes from before the first row.
      rcases collided.mp met with earlier | ⟨column, row, within, above, covered, lit⟩
      · cases earlier
      · exact ⟨column, row, within, above, lit, covered⟩
    · rintro ⟨column, row, within, above, lit, covered⟩
      exact collided.mpr (.inr ⟨column, row, within, above, covered, lit⟩)
  · intro column row outside
    -- On screen the pixel is not covered, and off screen none is ever lit.
    by_cases shown : column < 64 ∧ row < 32
    · rw [toggled column row shown.1 shown.2, covers_of_outside outside, Bool.xor_false]
    · rw [pixel_of_not_within _ shown, pixel_of_not_within _ shown]

/-- Two full rows at the last corner light two pixels there and none at the opposite edges. -/
theorem draw_toggles_covered_in_corner :
    (blank.draw 126 31 [0xFF, 0xFF]).1.pixel 63 31 = true ∧
      (blank.draw 126 31 [0xFF, 0xFF]).1.pixel 0 31 = false ∧
      (blank.draw 126 31 [0xFF, 0xFF]).1.pixel 63 0 = false := by
  -- The corner is covered, and the two opposite edges are out of reach.
  obtain ⟨toggled, -, -, kept⟩ := draw_toggles_covered blank 126 31 [0xFF, 0xFF]
  refine ⟨?_, ?_, ?_⟩
  · rw [toggled 63 31 (by decide) (by decide), pixel_blank]
    rfl
  · rw [kept 0 31 (.inl (by decide)), pixel_blank]
  · rw [kept 63 0 (.inr (.inr (.inl (by decide)))), pixel_blank]

end ChipEight.Screen
