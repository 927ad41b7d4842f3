import ChipEight.Keypad

/-! The host keyboard, whose left-hand letters and digits stand for the sixteen keys. -/

namespace ChipEight.Keyboard

/-- A key of the host keyboard. -/
inductive Code where
  /-- A key that types a character. -/
  | character (char : Char)
  /-- The escape key. -/
  | escape
  /-- Any other key. -/
  | other
deriving DecidableEq, Repr

/-- A key of the host keyboard and whether the control key is held with it. -/
structure Stroke where
  /-- The key that is struck. -/
  code : Code
  /-- Whether the control key is held. -/
  control : Bool
deriving DecidableEq, Repr

/-- The characters of the layout, each with the key that it stands for. -/
def layout : List (Char × Key) :=
  [('1', 0x1), ('2', 0x2), ('3', 0x3), ('4', 0xC),
   ('q', 0x4), ('w', 0x5), ('e', 0x6), ('r', 0xD),
   ('a', 0x7), ('s', 0x8), ('d', 0x9), ('f', 0xE),
   ('z', 0xA), ('x', 0x0), ('c', 0xB), ('v', 0xF)]

/-- The key that a stroke stands for, whatever the case of its letter. -/
def Code.key? : Code → Option Key
  | character char => layout.lookup char.toLower
  | escape | other => none

/-- Whether a stroke ends the session, as escape does and control with a small `c`. -/
def Stroke.quits (stroke : Stroke) : Bool :=
  stroke.code == .escape || (stroke.code == .character 'c' && stroke.control)

/-- The layout as the player is shown it. -/
def legend : List String :=
  ["Key Mapping:",
   "1 2 3 4    →    1 2 3 C",
   "Q W E R    →    4 5 6 D",
   "A S D F    →    7 8 9 E",
   "Z X C V    →    A 0 B F"]

end ChipEight.Keyboard
