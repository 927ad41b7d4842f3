import ChipEight.CommandLine.Numeral

/-! A numeral is read exactly if decimal digits spell a number below two to the sixty-fourth power,
and every such number is read back from its digits. -/

namespace ChipEight.CommandLine

/-- A text spells a number by decimal digits, before which a plus sign may stand. -/
def Spells (text : String) (value : UInt64) : Prop :=
  ∃ digits : List Char, digits ≠ [] ∧ (∀ digit ∈ digits, digit.isDigit = true) ∧
    (text.toList = digits ∨ text.toList = '+' :: digits) ∧
    Nat.ofDigitChars 10 digits 0 = value.toNat

/-- The digits of a text are all of it or what stands behind a plus sign. -/
theorem unsignedDigits_eq_iff {text digits : List Char}
    (plain : ∀ digit ∈ digits, digit.isDigit = true) :
    unsignedDigits text = digits ↔ text = digits ∨ text = '+' :: digits := by
  -- No digit is a plus sign, so a text that begins with one cannot be digits throughout.
  have unsigned : ∀ rest, digits ≠ '+' :: rest := by
    rintro rest rfl
    exact absurd (plain '+' List.mem_cons_self) (by decide)
  unfold unsignedDigits
  split
  -- A text with a plus sign is without it the digits, and cannot be the digits as it stands.
  case h_1 rest =>
    simp only [List.cons.injEq, true_and]
    exact ⟨.inr, fun either => either.resolve_left fun same => unsigned rest same.symm⟩
  -- A text without a plus sign is the digits as it stands.
  case h_2 other =>
    exact ⟨.inl, fun either => either.resolve_right (other digits)⟩

/-- A numeral has a number exactly if it spells that number. -/
theorem numeral?_eq_some_iff {text : String} {value : UInt64} :
    numeral? text = some value ↔ Spells text value := by
  -- The value of the digits is the library's, and its bound is that of a machine word.
  have spelt (digits : List Char) : decimalValue digits = Nat.ofDigitChars 10 digits 0 := rfl
  simp only [numeral?, spelt, Option.ite_none_right_eq_some, Bool.and_eq_true, Bool.not_eq_true',
    List.isEmpty_eq_false_iff, List.all_eq_true, decide_eq_true_eq, Option.some.injEq]
  constructor
  · rintro ⟨⟨⟨nonempty, plain⟩, small⟩, rfl⟩
    refine ⟨_, nonempty, plain, (unsignedDigits_eq_iff plain).mp rfl, ?_⟩
    exact (UInt64.toNat_ofNat_of_lt' small).symm
  · rintro ⟨digits, nonempty, plain, shape, same⟩
    rw [(unsignedDigits_eq_iff plain).mpr shape, same]
    exact ⟨⟨⟨nonempty, plain⟩, value.toNat_lt_size⟩, UInt64.ofNat_toNat⟩

/-- A numeral does not begin with a hyphen. -/
theorem Spells.head_ne_hyphen {text : String} {value : UInt64} (spelt : Spells text value)
    (rest : List Char) : text.toList ≠ '-' :: rest := by
  obtain ⟨digits, -, plain, shape, -⟩ := spelt
  -- The first character is a digit or the plus sign, and a hyphen is neither.
  intro hyphen
  rw [hyphen] at shape
  rcases shape with same | same
  · exact absurd (plain '-' (same ▸ List.mem_cons_self)) (by decide)
  · cases same

/-- The decimal digits of a number spell it. -/
theorem spells_toString (value : UInt64) : Spells (toString value.toNat) value := by
  -- The library writes a number in digits from which it reads the same number.
  refine ⟨Nat.toDigits 10 value.toNat, Nat.toDigits_ne_nil, fun digit listed =>
    Nat.isDigit_of_mem_toDigits (by decide) (by decide) listed, .inl ?_,
    Nat.ofDigitChars_ten_toDigits⟩
  rw [Nat.toString_eq_ofList_toDigits, String.toList_ofList]

end ChipEight.CommandLine
