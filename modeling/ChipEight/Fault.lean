import ChipEight.Rom
import ChipEight.Text.Hexadecimal

/-! The causes for which something asked of the machine is not done. -/

namespace ChipEight

/-- Why an instruction could not be carried out or a program image could not be loaded. -/
inductive Fault where
  /-- A call was made while every place of the call stack was taken. -/
  | tooManyCalls (capacity : Nat)
  /-- A return was made while no call was pending. -/
  | noPendingCall
  /-- A word is none of the known instructions. -/
  | unknownWord (word : UInt16)
  /-- An access reached the given address, which lies past the end of memory. -/
  | outsideMemory (address : Nat)
  /-- The program counter leaves no room for a whole word. -/
  | counterOutside (pc : UInt16)
  /-- A program image could not be loaded. -/
  | unloadable (error : LoadError)
deriving DecidableEq, Repr

/-- The sentence shown to the player for a fault. -/
def Fault.message : Fault → String
  | tooManyCalls capacity => "stack overflow: call depth exceeds " ++ toString capacity
  | noPendingCall => "stack underflow: return with an empty call stack"
  | unknownWord word => "unknown opcode: " ++ Text.hexadecimal 4 word.toNat
  | outsideMemory address =>
    "memory access out of bounds at " ++ Text.hexadecimal 4 address
  | counterOutside pc =>
    "program counter out of bounds: " ++ Text.hexadecimal 4 pc.toNat
  | unloadable error => error.message

/-- The messages from a fault down to its deepest cause. -/
def Fault.chain (fault : Fault) : List String :=
  match fault with
  | unloadable error => error.chain
  | _ => [fault.message]

end ChipEight
