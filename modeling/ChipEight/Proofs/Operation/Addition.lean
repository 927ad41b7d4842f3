import ChipEight.Proofs.Operation.Control

/-! The sums that a cycle forms without a check of its own, and that each fits its word. -/

namespace ChipEight

/-- A sum of numbers, with how many values the word has that receives it. -/
structure Addition where
  /-- The exact sum. -/
  sum : Nat
  /-- The number of values of the word. -/
  room : Nat

namespace Addition

/-- A sum received by a word of 16 bits. -/
def short (sum : Nat) : Addition where
  sum
  room := 0x10000

/-- A sum received by a word of 32 bits. -/
def middle (sum : Nat) : Addition where
  sum
  room := 0x100000000

/-- A sum received by a word of 64 bits. -/
def long (sum : Nat) : Addition where
  sum
  room := 0x10000000000000000

/-- Whether the word receives the exact sum. -/
def Fits (addition : Addition) : Prop :=
  addition.sum < addition.room

/-- A sum of at most eighteen bits, as those of addresses and pixels are, fits 64 bits. -/
theorem fits_long {sum : Nat} (small : sum < 0x40000) : (long sum).Fits := by
  -- Even the shortest word in question is longer by far.
  simp only [Fits, long]
  omega

end Addition

/-- The sums of drawing some rows from a corner, those of clipped pixels included. -/
def Screen.additions (left height rows : Nat) : List Addition :=
  (List.range rows).flatMap fun row =>
    .long (height + row) :: (List.range 8).flatMap fun bit =>
      [.long (left + bit), .long ((height + row) * 64 + (left + bit))]

/-- The height of each row is one of the sums. -/
theorem Screen.mem_additions_row {left height rows row : Nat} (listed : row < rows) :
    .long (height + row) ∈ additions left height rows :=
  List.mem_flatMap.mpr ⟨row, List.mem_range.mpr listed, List.mem_cons_self⟩

/-- The column of each bit of a row is one of the sums, and so is its place in the buffer. -/
theorem Screen.mem_additions_bit {left height rows row bit : Nat} (listed : row < rows)
    (narrow : bit < 8) :
    .long (left + bit) ∈ additions left height rows ∧
      .long ((height + row) * 64 + (left + bit)) ∈ additions left height rows := by
  -- Row by row the height comes first, and column and place follow for each bit.
  constructor
  all_goals
    refine List.mem_flatMap.mpr ⟨row, List.mem_range.mpr listed, List.mem_cons_of_mem _ ?_⟩
    exact List.mem_flatMap.mpr ⟨bit, List.mem_range.mpr narrow, by simp⟩

/-- The sums of a fetch, namely its two checks and the address that follows the word. -/
def Hardware.fetchAdditions (hardware : Hardware) : List Addition :=
  [.long (hardware.pc.toNat + 1), .long (hardware.pc.toNat + 2), .short (hardware.pc.toNat + 2)]

/-- The sums of an instruction apart from those of the program counter. -/
def Operation.additions (operation : Operation) (hardware : Hardware) : List Addition :=
  match operation with
  | call _ => [.long (hardware.stack.size + 1)]
  | jumpAhead offset => [.short (offset.val + (hardware.register Register.first).toNat)]
  | draw x y height =>
    .long (hardware.index.toNat + height.val) ::
      Screen.additions ((hardware.register x).toNat % 64) ((hardware.register y).toNat % 32)
        height.val
  | addIndex x => [.middle (hardware.index.toNat + (hardware.register x).toNat)]
  | glyph x =>
    [.short (Font.start + Font.height * (Nibble.ofByte (hardware.register x)).val)]
  | digits _ => [.long (hardware.index.toNat + 3)]
  | store last | load last =>
    [.long (last.val + 1), .long (hardware.index.toNat + (last.val + 1))]
  | _ => []

/-- Every sum of drawing a sprite of at most fifteen rows fits its word. -/
theorem Screen.fits_of_mem_additions {left height rows : Nat} (column : left < 64)
    (line : height < 32) (few : rows ≤ 15) {addition : Addition}
    (formed : addition ∈ additions left height rows) : addition.Fits := by
  -- The largest sum is the place of a pixel, of which there are few thousand.
  simp only [additions, List.mem_flatMap, List.mem_range, List.mem_cons, List.not_mem_nil,
    or_false] at formed
  obtain ⟨row, inside, vertical | ⟨bit, narrow, horizontal | place⟩⟩ := formed
  · subst vertical
    exact Addition.fits_long (by omega)
  · subst horizontal
    exact Addition.fits_long (by omega)
  · subst place
    exact Addition.fits_long (by omega)

/-- Every sum of an instruction fits its word. -/
theorem Operation.fits_of_mem_additions {operation : Operation} {hardware : Hardware}
    {addition : Addition} (formed : addition ∈ operation.additions hardware) : addition.Fits := by
  -- Operands have at most sixteen bits, and those of the short sums are smaller still.
  have index := hardware.index.toNat_lt
  cases operation with
  -- The count of pending calls is one more than at most sixteen.
  | call target =>
    have depth := hardware.stack.size_le
    simp only [additions, List.mem_singleton] at formed
    subst formed
    exact Addition.fits_long (by omega)
  -- An address and a byte together stay below the range of a word.
  | jumpAhead offset =>
    have byte := (hardware.register Register.first).toNat_lt
    simp only [additions, List.mem_singleton] at formed
    subst formed
    simp only [Addition.Fits, Addition.short]
    omega
  -- The bound of the sprite is one sum, and its pixels make up the others.
  | draw x y height =>
    rcases List.mem_cons.mp formed with bound | pixel
    · subst bound
      exact Addition.fits_long (by omega)
    · exact Screen.fits_of_mem_additions (Nat.mod_lt _ (by decide)) (Nat.mod_lt _ (by decide))
        (Nat.le_of_lt_succ height.isLt) pixel
  -- The flag is decided by a sum in a longer word than that of the index.
  | addIndex x =>
    have byte := (hardware.register x).toNat_lt
    simp only [additions, List.mem_singleton] at formed
    subst formed
    simp only [Addition.Fits, Addition.middle]
    omega
  -- The font ends long before the range of a word does.
  | glyph x =>
    simp only [additions, List.mem_singleton] at formed
    subst formed
    simp only [Addition.Fits, Addition.short, Font.start, Font.height, Nibble.val_ofByte]
    omega
  | digits x =>
    simp only [additions, List.mem_singleton] at formed
    subst formed
    exact Addition.fits_long (by omega)
  -- The number of bytes is one sum, and the end of the range is another.
  | store last | load last =>
    simp only [additions, List.mem_cons, List.not_mem_nil, or_false] at formed
    rcases formed with count | bound
    · subst count
      exact Addition.fits_long (by omega)
    · subst bound
      exact Addition.fits_long (by omega)
  | _ => cases formed

end ChipEight
