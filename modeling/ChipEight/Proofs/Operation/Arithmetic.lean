import ChipEight.Proofs.Operation.Code
import ChipEight.Proofs.Operation.Obstacle
import ChipEight.Proofs.Operation.Success

/-! Results and flags as numbers, whichever registers the operands and the flag may share. -/

namespace ChipEight

namespace Operation

/-- The registers of the two operands if an instruction writes a result to the first of them and a
flag after that. -/
def operands? : Operation → Option (Register × Register)
  | or x y | and x y | xor x y | add x y | subtract x y | shiftRight x y | subtractFrom x y
  | shiftLeft x y => some (x, y)
  | _ => none

/-- What result and flag have to do with the two operands, as an equation between numbers. -/
def Balances (operation : Operation) (first second result flag : Nat) : Prop :=
  match operation with
  | or _ _ => result = first ||| second ∧ flag = 0
  | and _ _ => result = first &&& second ∧ flag = 0
  | xor _ _ => result = first ^^^ second ∧ flag = 0
  | add _ _ => 256 * flag + result = first + second
  | subtract _ _ => (result : Int) = first - second + 256 * (1 - flag)
  | subtractFrom _ _ => (result : Int) = second - first + 256 * (1 - flag)
  | shiftRight _ _ => 2 * result + flag = second
  | shiftLeft _ _ => 256 * flag + result = 2 * second
  | _ => False

/-- Among bytes and single bits there is at most one result with its flag. -/
theorem Balances.unique {operation : Operation} {first second : Nat} {result other : UInt8}
    {flag raised : Bool} (one : operation.Balances first second result.toNat flag.toNat)
    (two : operation.Balances first second other.toNat raised.toNat) :
    other = result ∧ raised = flag := by
  -- As numbers both are fixed by the equation, the flag being worth more than any byte.
  have numbers : other.toNat = result.toNat ∧ raised.toNat = flag.toNat := by
    have bytes := And.intro result.toNat_lt other.toNat_lt
    have bits := And.intro flag.toNat_le raised.toNat_le
    cases operation <;> simp only [Balances] at one two <;> omega
  obtain ⟨values, flags⟩ := numbers
  refine ⟨UInt8.toNat_inj.mp values, ?_⟩
  cases flag <;> cases raised <;> simp_all

variable (x y : Register) (first second : UInt8)

/-- A sum makes up the operands together with its carry. -/
theorem balances_add :
    (add x y).Balances first.toNat second.toNat (first + second).toNat
      (decide (256 ≤ first.toNat + second.toNat)).toNat := by
  -- The sum of words leaves out 256 exactly when the sum of numbers reaches it.
  have left := first.toNat_lt
  have right := second.toNat_lt
  simp only [Balances, UInt8.toNat_add]
  by_cases carried : 256 ≤ first.toNat + second.toNat
  · simp only [carried, decide_true, Bool.toNat_true]
    omega
  · simp only [carried, decide_false, Bool.toNat_false]
    omega

/-- A difference of bytes is exact if the first is the larger one, and too large by 256 if not. -/
theorem toNat_sub_eq :
    ((first - second).toNat : Int) =
      first.toNat - second.toNat + 256 * (1 - (decide (second ≤ first)).toNat) := by
  -- Words leave out 256 exactly when more is taken away than there is.
  have left := first.toNat_lt
  have right := second.toNat_lt
  rw [UInt8.toNat_sub]
  by_cases whole : second ≤ first
  · -- Nothing is borrowed, so the difference is that of the numbers.
    have enough := UInt8.le_iff_toNat_le.mp whole
    simp only [whole, decide_true, Bool.toNat_true]
    omega
  · -- The difference of the numbers is below zero, and 256 make up for it.
    have borrowed := mt UInt8.le_iff_toNat_le.mpr whole
    simp only [whole, decide_false, Bool.toNat_false]
    omega

/-- Half of a byte makes up the byte together with the bit that is lost. -/
theorem balances_shiftRight :
    (shiftRight x y).Balances first.toNat second.toNat (second >>> 1).toNat
      (second.toNat.testBit 0).toNat := by
  -- The lost bit is the remainder by two, and the shift is the quotient.
  simp only [Balances, Nat.toNat_testBit, UInt8.toNat_shiftRight, UInt8.toNat_ofNat,
    Nat.shiftRight_eq_div_pow, Nat.reducePow, Nat.reduceMod]
  omega

/-- The double of a byte makes up twice the byte together with the bit that is lost. -/
theorem balances_shiftLeft :
    (shiftLeft x y).Balances first.toNat second.toNat (second <<< 1).toNat
      (second.toNat.testBit 7).toNat := by
  -- The lost bit is worth 256 in the double, which is what the byte leaves out.
  have small := second.toNat_lt
  simp only [Balances, Nat.toNat_testBit, UInt8.toNat_shiftLeft, UInt8.toNat_ofNat,
    Nat.shiftLeft_eq, Nat.reducePow, Nat.reduceMod]
  omega

/-- An instruction with two operands always writes a result and a flag that balance them. -/
theorem run_effect_of_operands? {operation : Operation} {x y : Register}
    (operands : operation.operands? = some (x, y)) (before : Hardware) :
    ∃ (result : UInt8) (flag : Bool),
      operation.effect.run before = .ok () (before.setFlagged x result flag) ∧
      operation.Balances (before.register x).toNat (before.register y).toNat
        result.toNat flag.toNat := by
  -- Both operands are read before either register is written.
  cases operation with
  | or _ _ =>
    cases operands
    exact ⟨_, _, rfl, UInt8.toNat_or .., rfl⟩
  | and _ _ =>
    cases operands
    exact ⟨_, _, rfl, UInt8.toNat_and .., rfl⟩
  | xor _ _ =>
    cases operands
    exact ⟨_, _, rfl, UInt8.toNat_xor .., rfl⟩
  | add _ _ =>
    cases operands
    exact ⟨_, _, rfl, balances_add ..⟩
  | subtract _ _ =>
    cases operands
    exact ⟨_, _, rfl, toNat_sub_eq ..⟩
  | subtractFrom _ _ =>
    cases operands
    exact ⟨_, _, rfl, toNat_sub_eq ..⟩
  | shiftRight _ _ =>
    cases operands
    exact ⟨_, _, rfl, balances_shiftRight ..⟩
  | shiftLeft _ _ =>
    cases operands
    exact ⟨_, _, rfl, balances_shiftLeft ..⟩
  -- No other instruction has two operands of this kind.
  | _ => cases operands

/-- What the registers hold once a result and then a flag have been written. -/
structure Settled (before after : Hardware) (x : Register) (result : UInt8) (flag : Bool) :
    Prop where
  /-- The flag is in its register, even if the result was to go there. -/
  flag : after.register Register.flag = flag.toUInt8
  /-- The result is in its register, unless that is the one of the flag. -/
  result : x ≠ Register.flag → after.register x = result
  /-- The other registers are as before. -/
  others : ∀ number, number ≠ x → number ≠ Register.flag →
    after.register number = before.register number

/-- The flag wins over the result, and no other register is touched. -/
theorem settled_setFlagged (before : Hardware) (x : Register) (result : UInt8) (flag : Bool) :
    Settled before (before.setFlagged x result flag) x result flag where
  flag := Registers.read_write_self ..
  result apart := by
    -- Writing the flag keeps the result, as long as it goes to another register.
    have kept := (before.registers.write x result).read_write_of_ne flag.toUInt8 (Ne.symm apart)
    exact kept.trans (before.registers.read_write_self x result)
  others number notResult notFlag := by
    -- Neither write is about this register.
    have kept := (before.registers.write x result).read_write_of_ne flag.toUInt8 (Ne.symm notFlag)
    exact kept.trans (before.registers.read_write_of_ne result (Ne.symm notResult))

/-- A word that spells an instruction is obeyed by carrying it out. -/
theorem run_obey {operation : Operation} {word : UInt16} (spelt : operation.code = word.toNat)
    (before : Hardware) : (obey word).run before = operation.effect.run before := by
  -- The word is decoded as the instruction that it spells.
  simp only [obey, (decode_eq_ok_iff word operation).mpr spelt, EStateM.run_bind,
    Attempt.run_ofExcept_ok]

/-- The word of an instruction is obeyed by carrying it out. -/
theorem run_obey_word (operation : Operation) (before : Hardware) :
    (obey operation.word).run before = operation.effect.run before :=
  run_obey operation.toNat_word.symm before

/-- A sprite that lies in memory is drawn at the coordinates found, whichever registers hold them. -/
theorem run_effect_draw (x y : Register) {height : Nibble} {before : Hardware}
    (inside : before.index.toNat + height.val ≤ 4096) :
    ∃ screen collided, before.screen.draw (before.register x).toNat (before.register y).toNat
        (before.memory.slice before.index.toNat height.val) = (screen, collided) ∧
      (draw x y height).effect.run before =
        .ok () { before with screen, registers := before.registers.writeFlag collided } := by
  -- Nothing but an overrun could stop it.
  have free : (draw x y height).obstacle before = none := if_neg (by omega)
  obtain ⟨after, carriedOut⟩ := exists_of_obstacle_none free
  obtain ⟨screen, collided, -, drawn, rfl⟩ := ok_of_draw carriedOut
  exact ⟨screen, collided, drawn, carriedOut⟩

/-- The hardware once a register has been added to the index. -/
def indexAdded (before : Hardware) (x : Register) : Hardware :=
  let sum := before.index.toNat + (before.register x).toNat
  { before with
    index := UInt16.ofNat sum
    registers := if 0xFFF < sum then before.registers.writeFlag true else before.registers }

/-- Adding to the index always succeeds. -/
theorem run_effect_addIndex (before : Hardware) (x : Register) :
    (addIndex x).effect.run before = .ok () (indexAdded before x) := rfl

/-- The flag is raised by a sum past the last address of memory, and left alone by any other. -/
theorem register_flag_indexAdded (before : Hardware) (x : Register) :
    (indexAdded before x).register Register.flag =
      if 0xFFF < before.index.toNat + (before.register x).toNat then 1
      else before.register Register.flag := by
  -- The flag is written under the condition of the statement.
  show (ite _ _ _ : Registers).read Register.flag = _
  split
  · exact before.registers.read_write_self ..
  · rfl

/-- No register but the one of the flag is touched. -/
theorem register_indexAdded_of_ne (before : Hardware) (x : Register) {number : Register}
    (apart : number ≠ Register.flag) :
    (indexAdded before x).register number = before.register number := by
  -- Whether the flag is written or not, this register is another one.
  show (ite _ _ _ : Registers).read number = _
  split
  · exact before.registers.read_write_of_ne _ (Ne.symm apart)
  · rfl

/-- Instructions read their operands before they write a flag, whichever registers they share with it.
Those with a result settle it and its flag as the only two that balance the operands, a sprite is
drawn at the coordinates found, and the index moves on by the byte found. -/
theorem obey_writes_flag_last (before : Hardware) (word : UInt16) :
    (∀ (operation : Operation) (x y : Register), operation.operands? = some (x, y) →
      operation.code = word.toNat →
      ∃ (result : UInt8) (flag : Bool) (after : Hardware),
        (obey word).run before = .ok () after ∧ Settled before after x result flag ∧
        ∀ (other : UInt8) (raised : Bool),
          operation.Balances (before.register x).toNat (before.register y).toNat
            other.toNat raised.toNat ↔ other = result ∧ raised = flag) ∧
    (∀ (x y : Register) (height : Nibble), (draw x y height).code = word.toNat →
      before.index.toNat + height.val ≤ 4096 →
      ∃ (screen : Screen) (collided : Bool) (after : Hardware),
        before.screen.draw (before.register x).toNat (before.register y).toNat
          (before.memory.slice before.index.toNat height.val) = (screen, collided) ∧
        (obey word).run before = .ok () after ∧ after.screen = screen ∧
        after.register Register.flag = collided.toUInt8 ∧
        ∀ number ≠ Register.flag, after.register number = before.register number) ∧
    (∀ x : Register, (addIndex x).code = word.toNat →
      ∃ after : Hardware, (obey word).run before = .ok () after ∧
        after.index.toNat = (before.index.toNat + (before.register x).toNat) % 65536 ∧
        after.register Register.flag =
          (if 0xFFF < before.index.toNat + (before.register x).toNat then 1
            else before.register Register.flag) ∧
        ∀ number ≠ Register.flag, after.register number = before.register number) := by
  refine ⟨?_, ?_, ?_⟩
  · -- The result and the flag that were written balance the operands, and nothing else does.
    intro operation x y operands spelt
    obtain ⟨result, flag, carriedOut, balanced⟩ := run_effect_of_operands? operands before
    refine ⟨result, flag, _, (run_obey spelt before).trans carriedOut,
      settled_setFlagged before x result flag, ?_⟩
    intro other raised
    constructor
    · exact balanced.unique
    · rintro ⟨rfl, rfl⟩
      exact balanced
  · -- The flag of the sprite is written once the sprite has been drawn.
    intro x y height spelt inside
    obtain ⟨screen, collided, drawn, carriedOut⟩ := run_effect_draw x y inside
    refine ⟨screen, collided, _, drawn, (run_obey spelt before).trans carriedOut, rfl,
      Registers.read_write_self .., ?_⟩
    intro number apart
    exact before.registers.read_write_of_ne _ (Ne.symm apart)
  · -- The sum is reckoned as a number before it becomes the index.
    intro x spelt
    have carriedOut := (run_obey spelt before).trans (run_effect_addIndex before x)
    exact ⟨_, carriedOut, UInt16.toNat_ofNat', register_flag_indexAdded before x,
      fun _ => register_indexAdded_of_ne before x⟩

/-- Fresh hardware but for the flag register, which holds 200. -/
def freshButFlag : Hardware :=
  (Hardware.powerOn (Random.ofSeed 0)).setRegister Register.flag 200

/-- The flag register can be both operands, the result and the flag of a sum, both coordinates of a
sprite, and what is added to the index. -/
theorem obey_writes_flag_last_over_operands :
    (∃ after, (obey 0x8FF4).run freshButFlag = .ok () after ∧
      after.register Register.flag = 1) ∧
    (∃ after, (obey 0xDFF0).run freshButFlag = .ok () after ∧
      after.register Register.flag = 0) ∧
    ∃ after, (obey 0xFF1E).run freshButFlag = .ok () after ∧ after.index.toNat = 200 ∧
      after.register Register.flag = 200 := by
  refine ⟨?_, ?_, ?_⟩
  · -- The sum is 400, which is 144 with a carry and nothing else.
    obtain ⟨result, flag, after, obeyed, settled, only⟩ :=
      (obey_writes_flag_last freshButFlag 0x8FF4).1 (add Register.flag Register.flag) _ _ rfl rfl
    obtain ⟨-, rfl⟩ := (only 144 true).mp rfl
    exact ⟨after, obeyed, settled.flag⟩
  · -- A sprite without rows hits nothing.
    obtain ⟨screen, collided, after, drawn, obeyed, -, flag, -⟩ :=
      (obey_writes_flag_last freshButFlag 0xDFF0).2.1 Register.flag Register.flag 0 rfl (by decide)
    cases drawn
    exact ⟨after, obeyed, flag⟩
  · -- A sum of 200 stays in memory, so that the flag is left alone.
    obtain ⟨after, obeyed, index, flag, -⟩ :=
      (obey_writes_flag_last freshButFlag 0xFF1E).2.2 Register.flag rfl
    exact ⟨after, obeyed, index, flag⟩

end Operation

end ChipEight
