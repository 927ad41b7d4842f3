import ChipEight.Operation.Decode

/-! Every instruction is spelt by exactly one word, and every other word spells none. -/

namespace ChipEight

/-- A word of four hexadecimal digits is read digit by digit. -/
theorem Fields.ofWord_digits (word : UInt16) (family x y n : Nibble)
    (spelt : word.toNat = 0x1000 * family.val + 0x100 * x.val + 0x10 * y.val + n.val) :
    (ofWord word).family = family ∧ (ofWord word).x = x ∧ (ofWord word).y = y ∧
      (ofWord word).n = n := by
  -- Each digit is the remainder by sixteen of what stands from it on to the left.
  refine ⟨?_, ?_, ?_, ?_⟩ <;> apply Fin.ext <;>
    simp only [ofWord, Nibble.val_ofNat] <;> omega

/-- A word whose low half is a byte is read as two digits and that byte. -/
theorem Fields.ofWord_byte (word : UInt16) (family x : Nibble) (byte : UInt8)
    (spelt : word.toNat = 0x1000 * family.val + 0x100 * x.val + byte.toNat) :
    (ofWord word).family = family ∧ (ofWord word).x = x ∧ (ofWord word).nn = byte := by
  -- A byte is less than the weight of the digits before it.
  have small : byte.toNat < 256 := byte.toNat_lt
  refine ⟨?_, ?_, ?_⟩
  · apply Fin.ext
    simp only [ofWord, Nibble.val_ofNat]
    omega
  · apply Fin.ext
    simp only [ofWord, Nibble.val_ofNat]
    omega
  · apply UInt8.toNat_inj.mp
    simp only [ofWord, UInt16.toNat_toUInt8]
    omega

/-- A word whose low three digits are an address is read as one digit and that address. -/
theorem Fields.ofWord_address (word : UInt16) (family : Nibble) (address : Address)
    (spelt : word.toNat = 0x1000 * family.val + address.val) :
    (ofWord word).family = family ∧ (ofWord word).nnn = address := by
  -- An address is less than the weight of the digit before it.
  refine ⟨?_, ?_⟩ <;> apply Fin.ext <;>
    simp only [ofWord, Nibble.val_ofNat, Address.ofNat] <;> omega

/-- The readings of a word agree with one another. -/
structure Fields.Coherent (fields : Fields) : Prop where
  /-- The four digits make up the word. -/
  digits : fields.word.toNat =
    0x1000 * fields.family.val + 0x100 * fields.x.val + 0x10 * fields.y.val + fields.n.val
  /-- The last two digits make up the low byte. -/
  byte : fields.nn.toNat = 0x10 * fields.y.val + fields.n.val
  /-- The last three digits make up the address. -/
  address : fields.nnn.val = 0x100 * fields.x.val + 0x10 * fields.y.val + fields.n.val

/-- Taking a word apart yields readings that agree with one another. -/
theorem Fields.coherent_ofWord (word : UInt16) : (ofWord word).Coherent := by
  -- Each reading is a quotient or a remainder of the same number.
  have small : word.toNat < 65536 := word.toNat_lt
  refine ⟨?_, ?_, ?_⟩ <;>
    simp only [ofWord, Nibble.val_ofNat, Address.ofNat, UInt16.toNat_toUInt8] <;> omega

namespace Operation

/-- The number of the word that spells an instruction. -/
def code : Operation → Nat
  | clear => 0x00E0
  | ret => 0x00EE
  | jump target => 0x1000 + target.val
  | call target => 0x2000 + target.val
  | skipIfByte x byte => 0x3000 + 0x100 * x.val + byte.toNat
  | skipUnlessByte x byte => 0x4000 + 0x100 * x.val + byte.toNat
  | skipIfEqual x y => 0x5000 + 0x100 * x.val + 0x10 * y.val
  | setByte x byte => 0x6000 + 0x100 * x.val + byte.toNat
  | addByte x byte => 0x7000 + 0x100 * x.val + byte.toNat
  | copy x y => 0x8000 + 0x100 * x.val + 0x10 * y.val
  | or x y => 0x8001 + 0x100 * x.val + 0x10 * y.val
  | and x y => 0x8002 + 0x100 * x.val + 0x10 * y.val
  | xor x y => 0x8003 + 0x100 * x.val + 0x10 * y.val
  | add x y => 0x8004 + 0x100 * x.val + 0x10 * y.val
  | subtract x y => 0x8005 + 0x100 * x.val + 0x10 * y.val
  | shiftRight x y => 0x8006 + 0x100 * x.val + 0x10 * y.val
  | subtractFrom x y => 0x8007 + 0x100 * x.val + 0x10 * y.val
  | shiftLeft x y => 0x800E + 0x100 * x.val + 0x10 * y.val
  | skipUnlessEqual x y => 0x9000 + 0x100 * x.val + 0x10 * y.val
  | setIndex address => 0xA000 + address.val
  | jumpAhead offset => 0xB000 + offset.val
  | random x mask => 0xC000 + 0x100 * x.val + mask.toNat
  | draw x y height => 0xD000 + 0x100 * x.val + 0x10 * y.val + height.val
  | skipIfDown x => 0xE09E + 0x100 * x.val
  | skipUnlessDown x => 0xE0A1 + 0x100 * x.val
  | readDelay x => 0xF007 + 0x100 * x.val
  | awaitKey x => 0xF00A + 0x100 * x.val
  | setDelay x => 0xF015 + 0x100 * x.val
  | setSound x => 0xF018 + 0x100 * x.val
  | addIndex x => 0xF01E + 0x100 * x.val
  | glyph x => 0xF029 + 0x100 * x.val
  | digits x => 0xF033 + 0x100 * x.val
  | store last => 0xF055 + 0x100 * last.val
  | load last => 0xF065 + 0x100 * last.val

/-- A word of the arithmetic family is decoded by its lowest digit. -/
theorem ofFields?_arithmetic (word : UInt16) (x y n : Nibble)
    (spelt : word.toNat = 0x8000 + n.val + 0x100 * x.val + 0x10 * y.val) :
    ofFields? (Fields.ofWord word) = arithmetic? x y n := by
  -- The four digits are put in the order in which they are read.
  have digits : word.toNat = 0x1000 * 8 + 0x100 * x.val + 0x10 * y.val + n.val := by omega
  obtain ⟨family, first, second, last⟩ := Fields.ofWord_digits word (.ofNat 8) x y n digits
  simp only [ofFields?]
  rw [family, first, second, last]
  rfl

/-- A word of the device family is decoded by its low byte. -/
theorem ofFields?_device (word : UInt16) (x : Nibble) (byte : UInt8)
    (spelt : word.toNat = 0xF000 + byte.toNat + 0x100 * x.val) :
    ofFields? (Fields.ofWord word) = device? x byte := by
  -- The register stands between the family and the low byte.
  have digits : word.toNat = 0x1000 * 15 + 0x100 * x.val + byte.toNat := by omega
  obtain ⟨family, first, last⟩ := Fields.ofWord_byte word (.ofNat 15) x byte digits
  simp only [ofFields?]
  rw [family, first, last]
  rfl

/-- A word that spells an instruction is decoded as that instruction. -/
theorem ofFields?_of_code {word : UInt16} {operation : Operation}
    (spelt : word.toNat = operation.code) :
    ofFields? (Fields.ofWord word) = some operation := by
  -- The digits that an instruction fixes choose its branch, and the others are its operands.
  cases operation with
  -- Without operands the word is a single one.
  | clear =>
    have whole : word = 0x00E0 := UInt16.toNat_inj.mp spelt
    subst whole
    rfl
  | ret =>
    have whole : word = 0x00EE := UInt16.toNat_inj.mp spelt
    subst whole
    rfl
  -- An address takes up all digits but the first.
  | jump target =>
    obtain ⟨family, low⟩ := Fields.ofWord_address word (.ofNat 1) target spelt
    rw [ofFields?, family, low]
    rfl
  | call target =>
    obtain ⟨family, low⟩ := Fields.ofWord_address word (.ofNat 2) target spelt
    rw [ofFields?, family, low]
    rfl
  -- A byte takes up the last two digits.
  | skipIfByte x byte =>
    obtain ⟨family, register, low⟩ := Fields.ofWord_byte word (.ofNat 3) x byte spelt
    rw [ofFields?, family, register, low]
    rfl
  | skipUnlessByte x byte =>
    obtain ⟨family, register, low⟩ := Fields.ofWord_byte word (.ofNat 4) x byte spelt
    rw [ofFields?, family, register, low]
    rfl
  -- The last digit is fixed, and the two before it are operands.
  | skipIfEqual x y =>
    obtain ⟨family, first, second, last⟩ :=
      Fields.ofWord_digits word (.ofNat 5) x y (.ofNat 0) spelt
    rw [ofFields?, family, first, second, last]
    rfl
  | setByte x byte =>
    obtain ⟨family, register, low⟩ := Fields.ofWord_byte word (.ofNat 6) x byte spelt
    rw [ofFields?, family, register, low]
    rfl
  | addByte x byte =>
    obtain ⟨family, register, low⟩ := Fields.ofWord_byte word (.ofNat 7) x byte spelt
    rw [ofFields?, family, register, low]
    rfl
  -- The lowest digit of the arithmetic family tells which one is meant.
  | copy x y => exact ofFields?_arithmetic word x y (.ofNat 0) spelt
  | or x y => exact ofFields?_arithmetic word x y (.ofNat 1) spelt
  | and x y => exact ofFields?_arithmetic word x y (.ofNat 2) spelt
  | xor x y => exact ofFields?_arithmetic word x y (.ofNat 3) spelt
  | add x y => exact ofFields?_arithmetic word x y (.ofNat 4) spelt
  | subtract x y => exact ofFields?_arithmetic word x y (.ofNat 5) spelt
  | shiftRight x y => exact ofFields?_arithmetic word x y (.ofNat 6) spelt
  | subtractFrom x y => exact ofFields?_arithmetic word x y (.ofNat 7) spelt
  | shiftLeft x y => exact ofFields?_arithmetic word x y (.ofNat 14) spelt
  | skipUnlessEqual x y =>
    obtain ⟨family, first, second, last⟩ :=
      Fields.ofWord_digits word (.ofNat 9) x y (.ofNat 0) spelt
    rw [ofFields?, family, first, second, last]
    rfl
  | setIndex address =>
    obtain ⟨family, low⟩ := Fields.ofWord_address word (.ofNat 10) address spelt
    rw [ofFields?, family, low]
    rfl
  | jumpAhead offset =>
    obtain ⟨family, low⟩ := Fields.ofWord_address word (.ofNat 11) offset spelt
    rw [ofFields?, family, low]
    rfl
  | random x mask =>
    obtain ⟨family, register, low⟩ := Fields.ofWord_byte word (.ofNat 12) x mask spelt
    rw [ofFields?, family, register, low]
    rfl
  | draw x y height =>
    obtain ⟨family, first, second, last⟩ :=
      Fields.ofWord_digits word (.ofNat 13) x y height spelt
    rw [ofFields?, family, first, second, last]
    rfl
  -- The low byte is fixed, and the register stands in front of it.
  | skipIfDown x =>
    obtain ⟨family, register, low⟩ :=
      Fields.ofWord_byte word (.ofNat 14) x 0x9E (by simp [spelt, code]; omega)
    rw [ofFields?, family, register, low]
    rfl
  | skipUnlessDown x =>
    obtain ⟨family, register, low⟩ :=
      Fields.ofWord_byte word (.ofNat 14) x 0xA1 (by simp [spelt, code]; omega)
    rw [ofFields?, family, register, low]
    rfl
  -- The low byte of the device family tells which one is meant.
  | readDelay x => exact ofFields?_device word x 0x07 spelt
  | awaitKey x => exact ofFields?_device word x 0x0A spelt
  | setDelay x => exact ofFields?_device word x 0x15 spelt
  | setSound x => exact ofFields?_device word x 0x18 spelt
  | addIndex x => exact ofFields?_device word x 0x1E spelt
  | glyph x => exact ofFields?_device word x 0x29 spelt
  | digits x => exact ofFields?_device word x 0x33 spelt
  | store x => exact ofFields?_device word x 0x55 spelt
  | load x => exact ofFields?_device word x 0x65 spelt

/-- An instruction read from the arithmetic family is spelt by the word it was read from. -/
theorem code_of_arithmetic? {x y n : Nibble} {operation : Operation}
    (read : arithmetic? x y n = some operation) :
    operation.code = 0x8000 + 0x100 * x.val + 0x10 * y.val + n.val := by
  -- Every branch fixes the lowest digit to that of its instruction.
  unfold arithmetic? at read
  split at read <;> cases read <;> simp only [code] <;> omega

/-- An instruction read from the device family is spelt by the word it was read from. -/
theorem code_of_device? {x : Nibble} {byte : UInt8} {operation : Operation}
    (read : device? x byte = some operation) :
    operation.code = 0xF000 + 0x100 * x.val + byte.toNat := by
  -- Every branch fixes the low byte to that of its instruction.
  unfold device? at read
  split at read <;> cases read <;> simp only [code, UInt8.toNat_ofNat] <;> omega

/-- An instruction read from agreeing fields is spelt by their word. -/
theorem code_of_ofFields? {fields : Fields} (coherent : fields.Coherent) {operation : Operation}
    (read : ofFields? fields = some operation) : operation.code = fields.word.toNat := by
  -- The branch that answered fixes some digits, and the operands hold the others.
  obtain ⟨word, family, x, y, n, nn, nnn⟩ := fields
  obtain ⟨digits, byte, address⟩ := coherent
  simp only [ofFields?] at read digits byte address ⊢
  split at read
  case h_1 => split at read <;> cases read <;> rfl
  case h_6 | h_10 =>
    split at read <;> cases read
    simp only [code]
    omega
  case h_9 =>
    rw [code_of_arithmetic? read, digits]
    rfl
  case h_15 =>
    split at read <;> cases read <;> simp only [code, UInt8.toNat_ofNat] at byte ⊢ <;> omega
  case h_16 =>
    -- The other fifteen families having been refused, this is the last one.
    rw [code_of_device? read, digits]
    have bounded := family.isLt
    simp only [Fin.ext_iff, imp_false] at *
    omega
  all_goals
    cases read
    simp only [code]
    omega

/-- A word is decoded as an instruction exactly when it is the word that spells it. -/
theorem decode_eq_ok_iff (word : UInt16) (operation : Operation) :
    decode word = .ok operation ↔ operation.code = word.toNat := by
  constructor
  · -- What has been decoded was read from the fields of the word.
    intro decoded
    cases read : ofFields? (Fields.ofWord word) with
    | none => simp [decode, read] at decoded
    | some found =>
      have same : found = operation := by simpa [decode, read] using decoded
      rw [← same]
      exact code_of_ofFields? (Fields.coherent_ofWord word) read
  · -- The fields of the word lead back to the instruction.
    intro spelt
    simp [decode, ofFields?_of_code spelt.symm]

/-- The word that spells an instruction. -/
def word (operation : Operation) : UInt16 :=
  UInt16.ofNat operation.code

/-- The number of a word has room for the number of every instruction. -/
theorem toNat_word (operation : Operation) : operation.word.toNat = operation.code := by
  -- Four hexadecimal digits are enough, of which a byte takes up two at most.
  have small : operation.code < 65536 := by
    cases operation with
    | skipIfByte _ byte | skipUnlessByte _ byte | setByte _ byte | addByte _ byte
    | random _ byte =>
      have twoDigits : byte.toNat < 256 := byte.toNat_lt
      simp only [code]
      omega
    | _ =>
      simp only [code]
      omega
  exact UInt16.toNat_ofNat_of_lt' small

/-- A word spells at most one instruction. -/
theorem eq_of_code_eq {word : UInt16} {first second : Operation} (one : first.code = word.toNat)
    (other : second.code = word.toNat) : first = second := by
  -- The word is decoded as either of them.
  have decoded := (decode_eq_ok_iff word first).mpr one
  rw [(decode_eq_ok_iff word second).mpr other] at decoded
  cases decoded
  rfl

/-- Decoding fails exactly on a word that spells no instruction, and names that word. -/
theorem decode_eq_error_iff_code (word : UInt16) (fault : Fault) :
    decode word = .error fault ↔
      (∀ operation : Operation, operation.code ≠ word.toNat) ∧ fault = .unknownWord word := by
  -- A word that is not decoded as any instruction is spelt by none.
  rw [decode_eq_error_iff]
  refine and_congr_left fun _ => ⟨?_, ?_⟩
  · -- A word that spells an instruction would have been read as that.
    intro unread operation spelt
    rw [ofFields?_of_code spelt.symm] at unread
    cases unread
  · -- What is read from a word is spelt by it.
    intro unspelt
    cases read : ofFields? (Fields.ofWord word) with
    | none => rfl
    | some found =>
      exact absurd (code_of_ofFields? (Fields.coherent_ofWord word) read) (unspelt found)

end Operation

end ChipEight
