/-! The lines of a text. -/

namespace ChipEight.Text

/-- The lines of a text, less the line feeds that end them and carriage returns right before. -/
def lines : List Char → List (List Char)
  | [] => []
  | '\n' :: rest => [] :: lines rest
  | '\r' :: '\n' :: rest => [] :: lines rest
  -- A carriage return without a line feed behind it is a character like others.
  | c :: rest =>
    match lines rest with
    | [] => [[c]]
    | line :: later => (c :: line) :: later

example : lines ['a', '\n', '\n', 'b', '\r', '\n'] = [['a'], [], ['b']] := by decide
example : lines ['a', '\r', 'b', '\r'] = [['a', '\r', 'b', '\r']] := by decide

end ChipEight.Text
