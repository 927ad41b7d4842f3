import ChipEight.Nibble

/-! The sixteen keys, each held down or not, as the host sets them. -/

namespace ChipEight

/-- The number of a key. -/
abbrev Key := Nibble

/-- Which of the sixteen keys are held down. -/
structure Keypad where
  /-- One mark for each key. -/
  down : Vector Bool 16
deriving DecidableEq

namespace Keypad

/-- The keypad with no key down. -/
def released : Keypad where
  down := Vector.replicate 16 false

/-- Whether a key is down. -/
def isDown (keypad : Keypad) (key : Key) : Bool :=
  keypad.down[key]

/-- Marks a key as down. -/
def press (keypad : Keypad) (key : Key) : Keypad where
  down := keypad.down.set key true

/-- Marks a key as up. -/
def release (keypad : Keypad) (key : Key) : Keypad where
  down := keypad.down.set key false

/-- The lowest-numbered key that is down. -/
def first? (keypad : Keypad) : Option Key :=
  Nibble.all.find? keypad.isDown

/-- What a host can do to the keys. -/
inductive Event where
  /-- One key goes down. -/
  | press (key : Key)
  /-- One key goes up. -/
  | release (key : Key)
  /-- All keys go up. -/
  | liftAll
deriving DecidableEq

/-- The keypad after a host event. -/
def apply (keypad : Keypad) : Event → Keypad
  | .press key => keypad.press key
  | .release key => keypad.release key
  | .liftAll => released

/-- Keypads with the same keys down are the same. -/
@[ext] theorem ext {first second : Keypad}
    (same : ∀ key, first.isDown key = second.isDown key) : first = second := by
  -- Sixteen marks are all there is to compare.
  obtain ⟨left⟩ := first
  obtain ⟨right⟩ := second
  have : left = right := Vector.ext fun index within => same ⟨index, within⟩
  rw [this]

/-- No key of the released keypad is down. -/
@[simp] theorem isDown_released (key : Key) : released.isDown key = false := by
  simp [released, isDown]

/-- A press puts its key down and leaves the others. -/
theorem isDown_press (keypad : Keypad) (pressed key : Key) :
    (keypad.press pressed).isDown key = (decide (pressed = key) || keypad.isDown key) := by
  -- Positions of the vector are compared as numbers.
  by_cases same : pressed = key <;>
    simp_all [press, isDown, Fin.ext_iff]

/-- A release puts its key up and leaves the others. -/
theorem isDown_release (keypad : Keypad) (lifted key : Key) :
    (keypad.release lifted).isDown key = (decide (lifted ≠ key) && keypad.isDown key) := by
  -- Positions of the vector are compared as numbers.
  by_cases same : lifted = key <;>
    simp_all [release, isDown, Fin.ext_iff]

/-- There is no lowest key exactly when none is down. -/
theorem first?_eq_none_iff (keypad : Keypad) :
    keypad.first? = none ↔ ∀ key, keypad.isDown key = false := by
  -- The search visits every key.
  simp [first?, List.find?_eq_none]

/-- The lowest key is down, and none below it is. -/
theorem first?_eq_some_iff (keypad : Keypad) (key : Key) :
    keypad.first? = some key ↔
      keypad.isDown key = true ∧ ∀ other < key, keypad.isDown other = false := by
  -- In the list of all keys each is found at the position that is its number.
  simp only [first?, Nibble.all, List.find?_eq_some_iff_getElem, List.getElem_finRange,
    List.length_finRange, Bool.not_eq_true']
  constructor
  · rintro ⟨down, position, within, rfl, earlier⟩
    exact ⟨down, fun other less => earlier other.val less⟩
  · rintro ⟨down, lowest⟩
    exact ⟨down, key.val, key.isLt, rfl, fun position less => lowest ⟨position, by omega⟩ less⟩

end Keypad

end ChipEight
