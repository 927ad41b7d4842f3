import Mathlib.Data.Finset.Card
import Mathlib.Data.Finset.Prod
import Mathlib.Algebra.BigOperators.Ring.Finset
import ChipEight.Proofs.Screen.Draw

/-! How many pixels are lit after a draw, reckoned from the set bits of the sprite. -/

namespace ChipEight.Screen

/-- The pixels of the screen, each by its column and its height. -/
@[irreducible] def places : Finset (Nat × Nat) :=
  Finset.range 64 ×ˢ Finset.range 32

/-- The set bits of a sprite that fall on the screen, each by its row and its distance from the left
of the sprite. -/
def visibleBits (x y : Nat) (sprite : List UInt8) : Finset (Nat × Nat) :=
  (Finset.range sprite.length ×ˢ Finset.range 8).filter fun bit =>
    x % 64 + bit.2 < 64 ∧ y % 32 + bit.1 < 32 ∧
      (sprite[bit.1]?.getD 0).toNat.testBit (7 - bit.2) = true

/-- Those of the visible bits that meet a lit pixel. -/
def struckBits (screen : Screen) (x y : Nat) (sprite : List UInt8) : Finset (Nat × Nat) :=
  (visibleBits x y sprite).filter fun bit =>
    screen.pixel (x % 64 + bit.2) (y % 32 + bit.1) = true

/-- A place is on the screen if its column and its height are. -/
theorem mem_places {place : Nat × Nat} : place ∈ places ↔ place.1 < 64 ∧ place.2 < 32 := by
  -- The definition stays closed elsewhere, for it is a table of two thousand places.
  unfold places
  rw [Finset.mem_product, Finset.mem_range, Finset.mem_range]

/-- The buffer lists the pixels row by row. -/
theorem toList_cells (screen : Screen) :
    screen.cells.toList =
      (List.range 2048).map fun place => screen.pixel (place % 64) (place / 64) := by
  -- Both lists have a pixel for each number in the buffer.
  refine List.ext_getElem (by simp) fun place within _ => ?_
  have column : place % 64 < 64 := Nat.mod_lt _ (by decide)
  have row : place / 64 < 32 := by
    rw [Vector.length_toList] at within
    omega
  simp [pixel, column, row, Nat.div_add_mod']

/-- The lit pixels are counted in whichever way the pixels are listed. -/
theorem lit_eq_card (screen : Screen) :
    screen.lit = (places.filter fun place => screen.pixel place.1 place.2 = true).card := by
  -- A list is counted as the set of its members is, since no number is in a range twice.
  have counted (size : Nat) (kind : Nat → Bool) :
      (List.range size).countP kind = ((Finset.range size).filter fun cell => kind cell).card := by
    calc (List.range size).countP kind
        = (List.range size).countP fun cell => decide (kind cell = true) := by
          simp only [Bool.decide_eq_true]
      _ = (Multiset.range size).countP fun cell => kind cell = true :=
          (Multiset.coe_countP _ (List.range size)).symm
      _ = _ := Multiset.countP_eq_card_filter _ _
  rw [lit, toList_cells, List.countP_map, counted]
  -- A pixel is the remainder and the quotient by the width of its number in the buffer.
  refine Finset.card_bij' (fun cell _ => (cell % 64, cell / 64))
    (fun place _ => place.2 * 64 + place.1) ?_ ?_ ?_ ?_
  · -- A lit cell of the buffer is a lit place of the screen.
    intro cell listed
    simp only [Finset.mem_filter, Finset.mem_range, mem_places] at listed ⊢
    exact ⟨by omega, listed.2⟩
  · -- A lit place of the screen is a lit cell of the buffer.
    intro place listed
    simp only [Finset.mem_filter, Finset.mem_range, mem_places] at listed ⊢
    obtain ⟨⟨column, row⟩, shown⟩ := listed
    have remainder : (place.2 * 64 + place.1) % 64 = place.1 := by omega
    have quotient : (place.2 * 64 + place.1) / 64 = place.2 := by omega
    simp only [Function.comp_apply, remainder, quotient]
    exact ⟨by omega, shown⟩
  · intro cell _
    exact Nat.div_add_mod' cell 64
  · intro place listed
    simp only [Finset.mem_filter, mem_places] at listed
    refine Prod.ext ?_ ?_ <;> simp only <;> omega

/-- Each visible bit lies over a pixel of its own, so the visible bits over the pixels of some kind
are as many as the covered pixels of that kind. -/
theorem card_visibleBits_filter (x y : Nat) (sprite : List UInt8) (kind : Nat → Nat → Bool) :
    ((visibleBits x y sprite).filter fun bit =>
        kind (x % 64 + bit.2) (y % 32 + bit.1) = true).card =
      (places.filter fun place =>
        (covers (x % 64) (y % 32) sprite place.1 place.2 && kind place.1 place.2) = true).card := by
  -- The bit over a pixel is found by going back to the corner of the sprite.
  refine Finset.card_bij' (fun bit _ => (x % 64 + bit.2, y % 32 + bit.1))
    (fun place _ => (place.2 - y % 32, place.1 - x % 64)) ?_ ?_ ?_ ?_
  · -- A visible bit covers the place it falls on.
    intro bit listed
    simp only [visibleBits, Finset.mem_filter, Finset.mem_range, Finset.mem_product, mem_places,
      Bool.and_eq_true] at listed ⊢
    obtain ⟨⟨⟨row, column⟩, within, above, set⟩, alike⟩ := listed
    refine ⟨⟨within, above⟩, covers_eq_true_iff.mpr ⟨by omega, ?_⟩, alike⟩
    rw [Nat.add_sub_cancel_left, Nat.add_sub_cancel_left, set]
  · -- A covered place on the screen has a visible bit over it.
    intro place listed
    simp only [visibleBits, Finset.mem_filter, Finset.mem_range, Finset.mem_product, mem_places,
      Bool.and_eq_true] at listed ⊢
    obtain ⟨⟨within, above⟩, covered, alike⟩ := listed
    obtain ⟨reached, set⟩ := covers_eq_true_iff.mp covered
    have column : x % 64 + (place.1 - x % 64) = place.1 := by omega
    have row : y % 32 + (place.2 - y % 32) = place.2 := by omega
    rw [column, row]
    exact ⟨⟨by omega, within, above, set⟩, alike⟩
  · intro bit _
    refine Prod.ext ?_ ?_ <;> simp only <;> omega
  · intro place listed
    simp only [Finset.mem_filter, mem_places, Bool.and_eq_true] at listed
    obtain ⟨reached, -⟩ := covers_eq_true_iff.mp listed.2.1
    refine Prod.ext ?_ ?_ <;> simp only <;> omega

/-- Where pixels are toggled, those lit in the end and twice those that were put out are as many as
those lit before and those toggled. -/
theorem card_filter_xor (lit toggled : Nat × Nat → Bool) :
    (places.filter fun place => (lit place ^^ toggled place) = true).card +
        2 * (places.filter fun place => (toggled place && lit place) = true).card =
      (places.filter fun place => lit place = true).card +
        (places.filter fun place => toggled place = true).card := by
  -- Every pixel contributes the same to both sides, whether it is lit or toggled, both or neither.
  simp only [Finset.card_filter, Finset.mul_sum, ← Finset.sum_add_distrib]
  refine Finset.sum_congr rfl fun place _ => ?_
  cases lit place <;> cases toggled place <;> rfl

/-- A draw adds the visible bits to the lit pixels and takes away two for each bit that struck. -/
theorem lit_draw (screen : Screen) (x y : Nat) (sprite : List UInt8) :
    (screen.draw x y sprite).1.lit + 2 * (struckBits screen x y sprite).card =
      screen.lit + (visibleBits x y sprite).card := by
  -- A draw lights the places at which lit and covered differ.
  have drawn : (places.filter fun place =>
        (screen.draw x y sprite).1.pixel place.1 place.2 = true) =
      places.filter fun place => (screen.pixel place.1 place.2 ^^
        covers (x % 64) (y % 32) sprite place.1 place.2) = true := by
    refine Finset.filter_congr fun place listed => ?_
    obtain ⟨within, above⟩ := mem_places.mp listed
    rw [pixel_draw _ _ _ _ within above]
  have visible := card_visibleBits_filter x y sprite fun _ _ => true
  have struck := card_visibleBits_filter x y sprite screen.pixel
  simp only [Finset.filter_true, Bool.and_true] at visible
  rw [lit_eq_card, lit_eq_card, drawn, visible, struckBits, struck]
  exact card_filter_xor _ _

/-- A draw collides exactly if a visible bit strikes a lit pixel. -/
theorem collided_iff_struck (screen : Screen) (x y : Nat) (sprite : List UInt8) :
    (screen.draw x y sprite).2 = true ↔ 0 < (struckBits screen x y sprite).card := by
  -- Struck bits are as many as the lit places that are covered.
  rw [collided_draw, struckBits, card_visibleBits_filter, Finset.card_pos]
  constructor
  · rintro ⟨column, row, within, above, covered, lit⟩
    refine ⟨(column, row), Finset.mem_filter.mpr ⟨mem_places.mpr ⟨within, above⟩, ?_⟩⟩
    rw [covered, lit, Bool.true_and]
  · rintro ⟨place, listed⟩
    simp only [Finset.mem_filter, mem_places, Bool.and_eq_true] at listed
    obtain ⟨⟨within, above⟩, covered, lit⟩ := listed
    exact ⟨place.1, place.2, within, above, covered, lit⟩

/-- No more pixels are lit than there are. -/
theorem lit_le (screen : Screen) : screen.lit ≤ 2048 := by
  have listed : screen.cells.toList.length = 2048 := screen.cells.length_toList
  -- The buffer has one cell for each pixel.
  exact listed ▸ List.countP_le_length

/-- No more bits strike than pixels are lit. -/
theorem card_struckBits_le_lit (screen : Screen) (x y : Nat) (sprite : List UInt8) :
    (struckBits screen x y sprite).card ≤ screen.lit := by
  -- Each struck bit has a lit place of its own.
  rw [struckBits, card_visibleBits_filter, lit_eq_card]
  refine Finset.card_le_card fun place listed => ?_
  simp only [Finset.mem_filter, Bool.and_eq_true] at listed ⊢
  exact ⟨listed.1, listed.2.2⟩

/-- A draw keeps account of the lit pixels. Each visible bit lights a pixel or strikes one that was
lit and puts it out, a collision is told exactly if one has struck, so that without a collision, and
only then, there are as many lit pixels more as there are visible bits, and there are never more
than the screen has. -/
theorem draw_accounts_for_lit_pixels (screen : Screen) (x y : Nat) (sprite : List UInt8) :
    let visible := (visibleBits x y sprite).card
    let struck := (struckBits screen x y sprite).card
    let drawn := screen.draw x y sprite
    drawn.1.lit + 2 * struck = screen.lit + visible ∧
      (drawn.2 = true ↔ 0 < struck) ∧
      screen.lit ≤ 2048 ∧ drawn.1.lit ≤ 2048 ∧
      (drawn.2 = false ↔ drawn.1.lit = screen.lit + visible) ∧
      struck ≤ min visible screen.lit := by
  intro visible struck drawn
  -- All that is left to reckon follows from the balance and from what a collision tells.
  have balance : drawn.1.lit + 2 * struck = screen.lit + visible := screen.lit_draw x y sprite
  have collides : drawn.2 = true ↔ 0 < struck := screen.collided_iff_struck x y sprite
  have few : struck ≤ visible := Finset.card_filter_le _ _
  have lit : struck ≤ screen.lit := screen.card_struckBits_le_lit x y sprite
  refine ⟨balance, collides, lit_le _, lit_le _, ?_, Nat.le_min.mpr ⟨few, lit⟩⟩
  rw [← Bool.not_eq_true, collides]
  omega

end ChipEight.Screen
