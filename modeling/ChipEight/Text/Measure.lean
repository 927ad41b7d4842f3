import ChipEight.Text.Ligature

/-! The columns of a text, in which some characters are drawn as one. -/

namespace ChipEight.Text

/-- A form that a selector asks for. -/
inductive Form where
  /-- The form of text. -/
  | text
  /-- The form of a picture. -/
  | picture
deriving DecidableEq, Repr

/-- What a text begins with, as far as the columns of a character before it depend on that. -/
inductive Opening where
  /-- Nothing of effect. -/
  | plain
  /-- A part of a ligature. -/
  | half (half : Half)
  /-- A picture. -/
  | picture
  /-- A skin tone. -/
  | skinTone
  /-- A letter of a flag. -/
  | flagLetter
  /-- Several letters of flags. -/
  | flagRun
  /-- A joiner and then a picture. -/
  | joinedPicture
  /-- A keycap before a joined picture. -/
  | joinedKeycap
  /-- A letter of a flag before a joined picture. -/
  | joinedLetter
  /-- Whole flags before a joined picture. -/
  | joinedFlags
  /-- Whole flags and a letter before a joined picture. -/
  | joinedFlagsLetter
  /-- The end of a region's name and some of its letters before a joined picture. -/
  | joinedLetters (count : Nat)
  /-- The end of a region's name and some of its digits before a joined picture. -/
  | joinedDigits (count : Nat)
deriving DecidableEq, Repr

namespace Opening

/-- What a text begins with whose first character is the given one. -/
def of (c : Char) : Opening :=
  match Half.of? c with
  | some part => .half part
  | none =>
    if pictures.covers c then .picture
    else if skinTones.covers c then .skinTone
    else if flagLetters.covers c then .flagLetter
    else .plain

/-- What is left of an opening when a selector before it found no use. -/
def unselected : Opening → Opening
  | half part => half part
  | _ => plain

/-- What is left of an opening behind a selector. -/
def selected (opening : Opening) (form : Form) : Opening :=
  match opening, form with
  | joinedPicture, .picture => joinedPicture
  | joinedKeycap, .picture => joinedKeycap
  | opening, _ => opening.unselected

end Opening

/-- What is known of a text that is read from its end. -/
structure Measure where
  /-- Its columns. -/
  columns : Nat
  /-- What it begins with, a selector apart. -/
  opening : Opening
  /-- The form that a selector before that asks for. -/
  form : Option Form
deriving DecidableEq, Repr

namespace Measure

/-- The measure of the empty text. -/
def zero : Measure where
  columns := 0
  opening := .plain
  form := none

/-- The measure of a text with more columns and a new beginning. -/
def wider (measure : Measure) (columns : Nat) (opening : Opening) : Measure where
  columns := measure.columns + columns
  opening
  form := none

/-- The measure of a text with a new beginning in the same columns. -/
def shared (measure : Measure) (opening : Opening) : Measure :=
  measure.wider 0 opening

/-- The measure of a text with a new beginning and one column less. -/
def narrower (measure : Measure) (opening : Opening) : Measure where
  columns := measure.columns - 1
  opening
  form := none

/-- The measure with a character that has its own columns before the text. -/
def apart (c : Char) (measure : Measure) : Measure :=
  measure.wider (charColumns c) (.of c)

/-- The measure with a character before a text that begins with a part of a ligature. -/
def beforeHalf (c : Char) (half : Half) (measure : Measure) : Measure :=
  if c = joiner && half ≠ .alef then measure.shared (.half half.join)
  else
    match half.unite? c with
    | some .complete => measure.shared .plain
    | some .below => measure.narrower .plain
    | some (.part next) => measure.shared (.half next)
    | some (.beside next) => measure.wider 1 (.half next)
    | none => if half.seesThrough c then measure.shared (.half half) else measure.apart c

/-- The measure with a character before a text that begins with a joined picture. -/
def beforeJoined (c : Char) (measure : Measure) : Measure :=
  if c = keycap then measure.shared .joinedKeycap
  else if c = tagEnd then measure.shared (.joinedLetters 0)
  else if flagLetters.covers c then measure.wider 1 .joinedLetter
  else if skinTones.covers c then measure.shared .skinTone
  else if pictures.covers c then measure.shared .picture
  else measure.apart c

/-- The measure with a character before a text without a selector at its beginning. -/
def beforeOpening (c : Char) (measure : Measure) : Measure :=
  match measure.opening with
  | .half half => measure.beforeHalf c half
  | .joinedPicture => measure.beforeJoined c
  | .picture => if c = joiner then measure.shared .joinedPicture else measure.apart c
  | .skinTone =>
    if c = joiner then measure.shared .joinedPicture
    else if tonedPictographs.covers c then measure.shared .picture
    else measure.apart c
  | .flagLetter => if flagLetters.covers c then measure.wider 1 .flagRun else measure.apart c
  | .flagRun =>
    if c = joiner then measure.shared .joinedPicture
    else if flagLetters.covers c then measure.wider 1 .flagRun
    else measure.apart c
  | .joinedLetter =>
    if flagLetters.covers c then measure.narrower .joinedFlags else measure.apart c
  | .joinedFlags =>
    if c = joiner then measure.shared .joinedPicture
    else if flagLetters.covers c then measure.wider 3 .joinedFlagsLetter
    else measure.apart c
  | .joinedFlagsLetter =>
    if c = joiner then measure.shared .joinedPicture
    else if flagLetters.covers c then measure.narrower .joinedFlags
    else measure.apart c
  | .joinedLetters count =>
    if tagLetters.covers c && count < 6 then measure.shared (.joinedLetters (count + 1))
    else if tagDigits.covers c && count < 5 then measure.shared (.joinedDigits 1)
    else if c = flagPole && 3 ≤ count then measure.shared .picture
    else measure.apart c
  | .joinedDigits count =>
    if tagDigits.covers c && count < 3 then measure.shared (.joinedDigits (count + 1))
    else if c = flagPole && count = 3 then measure.shared .picture
    else measure.apart c
  -- A keycap joins pictures only if a selector stands between.
  | .plain | .joinedKeycap => measure.apart c

/-- The measure with a selector before the text. -/
def beforeSelector (form : Form) (measure : Measure) : Measure where
  columns := measure.columns
  opening := measure.opening.selected form
  form := some form

/-- The measure of a text of which a selector for a picture at the beginning found no use. -/
def withoutPicture (measure : Measure) : Measure :=
  if measure.form = some .picture then
    { measure with opening := measure.opening.unselected, form := none }
  else measure

/-- Whether a character has two columns unless a selector asks for its text form. -/
def narrowsAsText (c : Char) : Bool :=
  selectablePictographs.covers c && pictures.covers c && !ideographPictures.covers c

/-- The measure with one more character before the text. -/
def before (c : Char) (measure : Measure) : Measure :=
  -- A selector makes a picture of the character right before it.
  if measure.form = some .picture && selectablePictographs.covers c then
    if measure.opening = .joinedPicture || measure.opening = .joinedKeycap then
      measure.shared .picture
    else measure.wider 2 .picture
  else
    -- It is lost on any other character.
    let rest := measure.withoutPicture
    if c.toNat ≤ 0xA0 then rest.wider 1 .plain
    else if c = pictureSelector then rest.beforeSelector .picture
    else if c = textSelector then rest.beforeSelector .text
    else if rest.form = some .text && narrowsAsText c then rest.wider 1 .plain
    else { rest with form := none }.beforeOpening c

end Measure

/-- The columns of a text, where what is drawn as one counts once. -/
def columns (text : List Char) : Nat :=
  (text.foldr Measure.before .zero).columns

example : columns ['日', 'a', '\u0301', '\t'] = 4 := by decide +kernel
example : columns ['👩', '🏽', '\u200D', '🚀'] = 2 := by decide +kernel
example : columns ['❤', '\uFE0F'] = 2 ∧ columns ['⌚', '\uFE0E'] = 1 := by decide +kernel
example : columns ['س', 'ل', 'ا', 'م'] = 3 := by decide +kernel
example : columns ['\u2D31', '\u2D7F', '\u2D32'] = 1 := by decide +kernel

end ChipEight.Text
