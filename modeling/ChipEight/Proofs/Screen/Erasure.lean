import ChipEight.Proofs.Operation.Arithmetic
import ChipEight.Proofs.Screen.Draw

/-! Draws may change places, and a sprite that is drawn twice is gone again. -/

namespace ChipEight

namespace Screen

/-- Of two draws either may come first. -/
theorem draw_comm (screen : Screen) (x y u v : Nat) (first second : List UInt8) :
    ((screen.draw x y first).1.draw u v second).1 =
      ((screen.draw u v second).1.draw x y first).1 := by
  -- Each pixel is toggled by the sprites that cover it, in whichever order.
  refine Screen.ext (fun column within row above => ?_) rfl
  rw [pixel_draw _ _ _ _ within above, pixel_draw _ _ _ _ within above,
    pixel_draw _ _ _ _ within above, pixel_draw _ _ _ _ within above, Bool.xor_right_comm]

/-- A sprite drawn twice leaves nothing behind but the request for a redraw. -/
theorem draw_draw_self (screen : Screen) (x y : Nat) (sprite : List UInt8) :
    ((screen.draw x y sprite).1.draw x y sprite).1 = screen.askRedraw := by
  -- The second draw toggles once more what the first one has toggled.
  refine Screen.ext (fun column within row above => ?_) rfl
  rw [pixel_draw _ _ _ _ within above, pixel_draw _ _ _ _ within above, Bool.xor_assoc,
    Bool.xor_self, Bool.xor_false, pixel_askRedraw]

/-- Drawn a second time, a sprite collides exactly where it has switched a pixel on. -/
theorem collided_draw_draw_self (screen : Screen) (x y : Nat) (sprite : List UInt8) :
    ((screen.draw x y sprite).1.draw x y sprite).2 = true ↔
      ∃ column row, screen.pixel column row = false ∧
        (screen.draw x y sprite).1.pixel column row = true := by
  -- On a second draw what is struck is what the first one has left lit.
  rw [collided_draw]
  constructor
  · rintro ⟨column, row, within, above, covered, lit⟩
    refine ⟨column, row, ?_, lit⟩
    -- A covered pixel that is lit now was dark before.
    rw [pixel_draw _ _ _ _ within above, covered, Bool.xor_true] at lit
    exact (Bool.not_eq_true' _).mp lit
  · rintro ⟨column, row, dark, lit⟩
    -- Only a pixel on the screen is ever lit, and only a covered one has changed.
    by_cases shown : column < 64 ∧ row < 32
    · refine ⟨column, row, shown.1, shown.2, ?_, lit⟩
      rw [pixel_draw _ _ _ _ shown.1 shown.2, dark, Bool.false_xor] at lit
      exact lit
    · rw [pixel_of_not_within _ shown] at lit
      cases lit

/-- An origin one screen farther to the right and down is the same origin. -/
theorem draw_add_size (screen : Screen) (x y : Nat) (sprite : List UInt8) :
    screen.draw (x + 64) (y + 32) sprite = screen.draw x y sprite := by
  -- The origin is taken round the screen before anything is drawn.
  simp only [draw, Nat.add_mod_right]

end Screen

namespace Operation

/-- A sprite drawn twice by the same instruction is gone again, and only the flag register and the
request for a redraw tell of it. -/
theorem run_effect_draw_twice {x y : Register} (apartX : x ≠ Register.flag)
    (apartY : y ≠ Register.flag) {height : Nibble} {before : Hardware}
    (inside : before.index.toNat + height.val ≤ 4096) :
    ∃ middle collided, (draw x y height).effect.run before = .ok () middle ∧
      (draw x y height).effect.run middle =
        .ok () { before with
          screen := before.screen.askRedraw
          registers := before.registers.writeFlag collided } ∧
      (collided = true ↔ ∃ column row, before.screen.pixel column row = false ∧
        middle.screen.pixel column row = true) := by
  -- Both draws are carried out, the second on the hardware that the first has left.
  obtain ⟨screen, hit, drawn, first⟩ := run_effect_draw x y inside
  let middle : Hardware := { before with screen, registers := before.registers.writeFlag hit }
  obtain ⟨again, collided, redrawn, second⟩ := @run_effect_draw x y height middle inside
  -- The first draw writes but the flag and the screen, so the second finds its sprite and origin.
  have left : middle.register x = before.register x :=
    before.registers.read_write_of_ne hit.toUInt8 (Ne.symm apartX)
  have top : middle.register y = before.register y :=
    before.registers.read_write_of_ne hit.toUInt8 (Ne.symm apartY)
  rw [left, top] at redrawn
  obtain ⟨rfl, rfl⟩ := Prod.ext_iff.mp drawn.symm
  obtain ⟨rfl, rfl⟩ := Prod.ext_iff.mp redrawn.symm
  refine ⟨middle, _, first, ?_, before.screen.collided_draw_draw_self ..⟩
  -- The flag of the second draw takes the place of the flag of the first.
  have restored : (middle.screen.draw (before.register x).toNat (before.register y).toNat
      (middle.memory.slice middle.index.toNat height.val)).1 = before.screen.askRedraw :=
    before.screen.draw_draw_self ..
  have flags (collided : Bool) :
      middle.registers.writeFlag collided = before.registers.writeFlag collided :=
    before.registers.write_write_self Register.flag _ collided.toUInt8
  rw [second, flags, restored]

end Operation

/-- Drawing acts by exclusive or. Of two draws either may come first, a draw made twice restores
every pixel and collides the second time exactly if it switched one on, and an origin counts only up
to the size of the screen. So an instruction that draws the same sprite twice, at coordinates that
its flag does not overwrite, leaves nothing behind but the flag and the request for a redraw. -/
theorem drawing_acts_by_exclusive_or :
    (∀ (screen : Screen) (x y u v : Nat) (first second : List UInt8),
      ((screen.draw x y first).1.draw u v second).1 =
        ((screen.draw u v second).1.draw x y first).1) ∧
    (∀ (screen : Screen) (x y : Nat) (sprite : List UInt8),
      ((screen.draw x y sprite).1.draw x y sprite).1 = { screen with redraw := true } ∧
      (((screen.draw x y sprite).1.draw x y sprite).2 = true ↔
        ∃ column row, screen.pixel column row = false ∧
          (screen.draw x y sprite).1.pixel column row = true) ∧
      screen.draw (x + 64) (y + 32) sprite = screen.draw x y sprite) ∧
    ∀ (before : Hardware) (word : UInt16) (x y : Register) (height : Nibble),
      (Operation.draw x y height).code = word.toNat → x ≠ Register.flag → y ≠ Register.flag →
      before.index.toNat + height.val ≤ 4096 →
      ∃ middle collided, (Operation.obey word).run before = .ok () middle ∧
        (Operation.obey word).run middle =
          .ok () { before with
            screen := { before.screen with redraw := true }
            registers := before.registers.writeFlag collided } ∧
        (collided = true ↔ ∃ column row, before.screen.pixel column row = false ∧
          middle.screen.pixel column row = true) := by
  refine ⟨Screen.draw_comm, ?_, ?_⟩
  · intro screen x y sprite
    exact ⟨screen.draw_draw_self x y sprite, screen.collided_draw_draw_self x y sprite,
      screen.draw_add_size x y sprite⟩
  · -- An instruction that is spelt as a draw does what the draw does.
    intro before word x y height spelt apartX apartY inside
    obtain ⟨middle, collided, first, second, struck⟩ :=
      Operation.run_effect_draw_twice apartX apartY inside
    exact ⟨middle, collided, (Operation.run_obey spelt before).trans first,
      (Operation.run_obey spelt middle).trans second, struck⟩

/-- The glyph of a zero drawn twice over a dark screen is gone again, and the flag tells that it had
been there. -/
theorem drawing_acts_by_exclusive_or_on_glyph :
    ∃ before middle after : Hardware, before.index = 0x50 ∧
      (Operation.obey 0xD125).run before = .ok () middle ∧
      middle.screen.pixel 0 0 = true ∧
      (Operation.obey 0xD125).run middle = .ok () after ∧
      after.register Register.flag = 1 ∧ ∀ column row, after.screen.pixel column row = false := by
  let before : Hardware := { Hardware.powerOn (Random.ofSeed 0) with index := 0x50 }
  have spelt : (Operation.draw 1 2 5).code = (0xD125 : UInt16).toNat := rfl
  have inside : before.index.toNat + (5 : Nibble).val ≤ 4096 := by decide
  obtain ⟨middle, collided, first, second, struck⟩ :=
    drawing_acts_by_exclusive_or.2.2 before 0xD125 1 2 5 spelt (by decide) (by decide) inside
  -- The corner of the glyph is lit once it has been drawn, and was dark before.
  obtain ⟨screen, hit, drawn, carriedOut⟩ := Operation.run_effect_draw 1 2 inside
  obtain ⟨-, rfl⟩ := EStateM.Result.ok.inj
    (first.symm.trans ((Operation.run_obey spelt before).trans carriedOut))
  have lit : screen.pixel 0 0 = true := by
    rw [← show _ = screen from congrArg Prod.fst drawn,
      Screen.pixel_draw _ _ _ _ (by decide) (by decide)]
    decide +kernel
  have again : collided = true := struck.mpr ⟨0, 0, Screen.pixel_blank 0 0, lit⟩
  refine ⟨before, _, _, rfl, first, lit, second, ?_, ?_⟩
  · rw [again]
    exact Registers.read_write_self ..
  · intro column row
    exact (Screen.blank.pixel_askRedraw column row).trans (Screen.pixel_blank column row)

end ChipEight
