/-! The short name of a program image, taken from its path. -/

namespace ChipEight.Rom

/-- The name without its last dot and what follows, unless that dot comes first. -/
def stem (name : String) : String :=
  let reversed := name.toList.reverse
  let before := (reversed.dropWhile (· != '.')).drop 1
  if before.isEmpty then name else String.ofList before.reverse

/-- The parts of a path between its slashes, less empty parts and those that stay in place. -/
def pathParts (path : String) : List String :=
  ((path.splitOn "/").filter fun part => part != "" && part != ".")

/-- The stem of the last part of a path, if that part names something. -/
def name (path : String) : String :=
  match (pathParts path).getLast? with
  | none | some ".." => "Unknown ROM"
  | some last => stem last

end ChipEight.Rom
