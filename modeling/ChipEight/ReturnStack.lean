import ChipEight.Attempt

/-! The bounded stack of return addresses, seen as a list from the oldest call to the latest. -/

namespace ChipEight

/-- Sixteen places for return addresses, of which only the first `size` count. -/
structure ReturnStack where
  /-- The places, which keep old addresses once their calls have returned. -/
  slots : Vector UInt16 16
  /-- The number of pending calls. -/
  size : Nat
  /-- There is a place for each pending call. -/
  size_le : size ≤ 16
deriving DecidableEq

namespace ReturnStack

/-- The stack without pending calls and with all places unused. -/
def empty : ReturnStack where
  slots := Vector.replicate 16 0
  size := 0
  size_le := by decide

/-- Whether no call is pending. -/
def isEmpty (stack : ReturnStack) : Bool :=
  stack.size == 0

/-- Whether all sixteen places are taken. -/
def isFull (stack : ReturnStack) : Bool :=
  stack.size == 16

/-- The pending return addresses, the oldest call first. -/
def toList (stack : ReturnStack) : List UInt16 :=
  stack.slots.toList.take stack.size

/-- Forgets every pending call and leaves the places as they are. -/
def clear (stack : ReturnStack) : ReturnStack :=
  { stack with size := 0, size_le := Nat.zero_le 16 }

/-- Records a return address, or fails when every place is taken. -/
def push (address : UInt16) : Attempt ReturnStack Unit := do
  let stack ← get
  if room : stack.size < 16 then
    set ({ slots := stack.slots.set stack.size address
           size := stack.size + 1
           size_le := room } : ReturnStack)
  else
    throw (.tooManyCalls 16)

/-- Takes the latest return address off, or fails when no call is pending. -/
def pop : Attempt ReturnStack UInt16 := do
  let stack ← get
  if pending : 0 < stack.size then
    have within : stack.size - 1 < 16 := by have := stack.size_le; omega
    set { stack with size := stack.size - 1, size_le := Nat.le_of_lt within }
    return stack.slots[stack.size - 1]
  else
    throw .noPendingCall

/-- The empty stack lists no addresses. -/
@[simp] theorem toList_empty : empty.toList = [] := rfl

/-- A cleared stack lists no addresses, whatever its places still hold. -/
@[simp] theorem toList_clear (stack : ReturnStack) : stack.clear.toList = [] := by
  -- Nothing is taken from the places.
  simp [toList, clear]

/-- The list view has one entry for each pending call. -/
@[simp] theorem length_toList (stack : ReturnStack) : stack.toList.length = stack.size := by
  -- There are enough places to take as many entries from.
  have := stack.size_le
  simp only [toList, List.length_take, Vector.length_toList]
  omega

/-- A push that finds room appends its address to the list view. -/
theorem run_push_of_lt {stack : ReturnStack} (room : stack.size < 16) (address : UInt16) :
    ∃ next, (push address).run stack = .ok () next ∧ next.toList = stack.toList ++ [address] := by
  -- The first free place comes right behind those that are listed.
  refine ⟨⟨stack.slots.set stack.size address, stack.size + 1, room⟩, ?_, ?_⟩
  · simp [push, room]
  · simp [toList, Vector.toList_set, List.take_succ_eq_append_getElem, List.take_set_of_le, room]

/-- A push onto a full stack fails and leaves it alone. -/
theorem run_push_of_full {stack : ReturnStack} (full : stack.size = 16) (address : UInt16) :
    (push address).run stack = .error (.tooManyCalls 16) stack := by
  simp [push, full]

/-- A pop from a stack without pending calls fails and leaves it alone. -/
theorem run_pop_of_zero {stack : ReturnStack} (none : stack.size = 0) :
    pop.run stack = .error .noPendingCall stack := by
  simp [pop, none]

/-- A pop returns the last address of the list view and takes it off. -/
theorem run_pop_of_pos {stack : ReturnStack} (pending : 0 < stack.size) :
    ∃ address next, pop.run stack = .ok address next ∧ stack.toList = next.toList ++ [address] := by
  -- The last listed entry is the one in the place that the pop reads.
  have within : stack.size - 1 < 16 := by have := stack.size_le; omega
  refine ⟨stack.slots[stack.size - 1],
    { stack with size := stack.size - 1, size_le := Nat.le_of_lt within }, ?_, ?_⟩
  · simp [pop, pending]
  · have position : stack.size = stack.size - 1 + 1 := by omega
    conv => lhs; rw [toList, position]
    simp [toList, List.take_succ_eq_append_getElem, within]

end ReturnStack

end ChipEight
