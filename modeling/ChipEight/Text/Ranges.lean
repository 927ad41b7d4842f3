/-! Sets of characters as ranges of code points. -/

namespace ChipEight.Text

/-- Closed ranges of code points. -/
abbrev Ranges := List (Nat × Nat)

namespace Ranges

/-- Whether a character lies in one of the ranges. -/
def covers (ranges : Ranges) (c : Char) : Bool :=
  ranges.any fun range => range.1 ≤ c.toNat && c.toNat ≤ range.2

/-- Whether the ranges are ascending and none touches the next. -/
def apart : Ranges → Bool
  | [] => true
  | [range] => range.1 ≤ range.2
  | range :: next :: rest => range.1 ≤ range.2 && range.2 + 1 < next.1 && apart (next :: rest)

/-- The number of code points in the ranges, if these are apart. -/
def size : Ranges → Nat
  | [] => 0
  | range :: rest => range.2 + 1 - range.1 + size rest

end Ranges

end ChipEight.Text
