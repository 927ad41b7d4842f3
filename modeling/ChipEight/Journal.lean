import ChipEight.Operation.Decode

/-! The journal of a machine, one entry for each event worth recording. -/

namespace ChipEight

/-- One record of what a machine did. -/
inductive JournalEntry where
  /-- The machine went back to power-on. -/
  | reset
  /-- A program image of the given size was placed in memory. -/
  | loaded (size : Nat)
  /-- The instruction of a word is about to be carried out. -/
  | executing (pc word : UInt16) (operation : Operation)
  /-- A fault stopped the machine while the program counter had the given value. -/
  | halted (pc : UInt16) (fault : Fault)
deriving DecidableEq, Repr

/-- The records of a machine in the order in which they were made. -/
abbrev Journal := List JournalEntry

namespace JournalEntry

/-- How much attention an entry deserves. -/
def level : JournalEntry → String
  | reset | loaded _ => "INFO"
  | executing _ _ _ => "TRACE"
  | halted _ _ => "WARN"

/-- What an entry says. -/
def body : JournalEntry → String
  | reset => "machine reset"
  | loaded size => "loaded ROM [size: " ++ toString size ++ " bytes]"
  | executing pc word operation =>
    Text.hexadecimal 3 pc.toNat ++ ": " ++ Text.hexadecimal 4 word.toNat ++ " " ++
      operation.mnemonic
  | halted pc fault =>
    "halted at pc " ++ Text.hexadecimal 3 pc.toNat ++ ": " ++ fault.message

/-- An entry as one line, its level before what it says. -/
def line (entry : JournalEntry) : String :=
  entry.level ++ " " ++ entry.body

end JournalEntry

end ChipEight
