import ChipEight.ReturnStack

/-! The call stack answers like a plain list of at most sixteen addresses, whatever its places still
hold. -/

namespace ChipEight

/-- The answer of an attempt, or the fault that has cut it short, with the part as it then stands. -/
def Attempt.answered {part value : Type} (attempt : Attempt part value) (state : part) :
    Except Fault value × part :=
  -- An attempt that is cut short answers too, with the part as it was left.
  match attempt.run state with
  | .ok value changed => (.ok value, changed)
  | .error fault changed => (.error fault, changed)

namespace ReturnStack

/-- What can be asked of a stack. -/
inductive Request where
  /-- Record an address. -/
  | push (address : UInt16)
  /-- Take the latest address off. -/
  | pop
  /-- Forget all addresses. -/
  | clear
deriving DecidableEq

/-- What is answered to a request, which is an address if one was taken off, or the fault for which
it was not met. -/
abbrev Answer := Except Fault (Option UInt16)

/-- What a stack shows of itself. -/
structure Sight where
  /-- The addresses, the oldest first. -/
  entries : List UInt16
  /-- Their number. -/
  size : Nat
  /-- Whether there are none. -/
  isEmpty : Bool
  /-- Whether there is no room for another one. -/
  isFull : Bool
deriving DecidableEq

/-- What is answered to a request, with the stack behind it. -/
def serve (stack : ReturnStack) : Request → Answer × ReturnStack
  | .push address => ((fun _ => none) <$> push address).answered stack
  | .pop => (some <$> pop).answered stack
  | .clear => (.ok none, stack.clear)

/-- What a stack shows. -/
def sight (stack : ReturnStack) : Sight where
  entries := stack.toList
  size := stack.size
  isEmpty := stack.isEmpty
  isFull := stack.isFull

/-- What is answered to a request by the rules of a list of at most sixteen addresses, with the list
behind it. -/
def serveList (entries : List UInt16) : Request → Answer × List UInt16
  | .push address =>
    -- The check comes first, so that a list that is full is given back as it was.
    if entries.length < 16 then (.ok none, entries ++ [address])
    else (.error (.tooManyCalls 16), entries)
  | .pop =>
    -- The latest address stands at the end of the list.
    match entries.getLast? with
    | some latest => (.ok (some latest), entries.dropLast)
    | none => (.error .noPendingCall, entries)
  | .clear => (.ok none, [])

/-- What a list of at most sixteen addresses shows. -/
def sightList (entries : List UInt16) : Sight where
  entries := entries
  size := entries.length
  isEmpty := entries.isEmpty
  isFull := entries.length == 16

/-- What is answered to each of several requests, with what is shown behind it. -/
def trace {State : Type} (serve : State → Request → Answer × State) (sight : State → Sight)
    (state : State) : List Request → List (Answer × Sight)
  | [] => []
  | request :: rest =>
    -- What is shown is looked at behind each request and not only behind the last.
    let (answer, next) := serve state request
    (answer, sight next) :: trace serve sight next rest

variable {stack : ReturnStack}

/-- An address for which there is room goes to the first place that does not count. -/
theorem serve_push_of_lt (room : stack.size < 16) (address : UInt16) :
    stack.serve (.push address) =
      (.ok none, ⟨stack.slots.set stack.size address, stack.size + 1, room⟩) := by
  -- The check is passed, and the address is written to the place that the number points to.
  simp [serve, Attempt.answered, push, room]

/-- Without room an address is refused, and nothing changes. -/
theorem serve_push_of_full (full : stack.size = 16) (address : UInt16) :
    stack.serve (.push address) = (.error (.tooManyCalls 16), stack) := by
  simp only [serve, Attempt.answered, Attempt.run_map, run_push_of_full full]

/-- Without an address there is none to be taken off, and nothing changes. -/
theorem serve_pop_of_zero (none : stack.size = 0) :
    stack.serve .pop = (.error .noPendingCall, stack) := by
  simp only [serve, Attempt.answered, Attempt.run_map, run_pop_of_zero none]

/-- The address that is taken off is in the last place that counts, and is left there. -/
theorem serve_pop_of_pos (pending : 0 < stack.size) :
    ∃ next, stack.serve .pop = (.ok stack.slots[stack.size - 1]?, next) ∧
      next.slots = stack.slots := by
  -- The place is one of the sixteen, since the addresses that count are no more.
  have within : stack.size - 1 < 16 := by have := stack.size_le; omega
  simp [serve, Attempt.answered, pop, pending, within]

/-- A request is met by a stack as it is by the list of its addresses. -/
theorem serve_toList (stack : ReturnStack) (request : Request) :
    serveList stack.toList request =
      ((stack.serve request).1, (stack.serve request).2.toList) := by
  -- Each request makes the same check on the list that it makes on the number.
  cases request with
  | push address =>
    -- The length of the list is the number against which the stack checks.
    rw [serveList, length_toList]
    by_cases room : stack.size < 16
    · -- The stack lists the new address behind the others, as the list has it.
      obtain ⟨next, pushed, listed⟩ := run_push_of_lt room address
      simp only [if_pos room, serve, Attempt.answered, Attempt.run_map, pushed, listed]
    · -- There are never more addresses than places.
      have full : stack.size = 16 := by have := stack.size_le; omega
      rw [if_neg room, serve_push_of_full full]
  | pop =>
    by_cases none : stack.size = 0
    · -- Without an address that counts the list is empty, whatever the places hold.
      have empty : stack.toList = [] := by
        rw [← List.length_eq_zero_iff, length_toList, none]
      rw [serve_pop_of_zero none, empty]
      rfl
    · -- The address taken off is the last one listed, and the others remain.
      obtain ⟨address, next, popped, listed⟩ := run_pop_of_pos (Nat.pos_of_ne_zero none)
      simp only [serveList, serve, Attempt.answered, Attempt.run_map, popped, listed,
        List.getLast?_concat, List.dropLast_concat]
  | clear =>
    -- Forgetting the number forgets the whole list.
    rw [serve, toList_clear]
    rfl

/-- A stack shows what the list of its addresses shows. -/
theorem sight_eq_sightList (stack : ReturnStack) : stack.sight = sightList stack.toList := by
  -- The one looks at the list and the other at the number, which is the length of the list.
  have empty : stack.toList.isEmpty = stack.isEmpty := by
    rw [Bool.eq_iff_iff, List.isEmpty_iff_length_eq_zero, length_toList, isEmpty, beq_iff_eq]
  simp only [sight, sightList, length_toList, empty, isFull]

/-- Several requests are met by a stack as they are by the list of its addresses, each with what is
shown behind it. -/
theorem trace_eq_trace_list (stack : ReturnStack) (requests : List Request) :
    trace serve sight stack requests = trace serveList sightList stack.toList requests := by
  -- The rest is asked of the stack that the first request leaves and of the list of its addresses.
  induction requests generalizing stack with
  | nil => rfl
  | cons request rest ih =>
    simp only [trace, serve_toList, sight_eq_sightList, ih]

/-- The place to which a request comes once it has passed its check. -/
def Request.place? (request : Request) (stack : ReturnStack) : Option Nat :=
  match request with
  | push _ => if stack.isFull then none else some stack.size
  | pop => if stack.isEmpty then none else some (stack.size - 1)
  | clear => none

/-- What a request has to do with the places of a stack. -/
structure Touches (stack : ReturnStack) (request : Request) : Prop where
  /-- The place to which it comes is one of the sixteen. -/
  within : ∀ place, request.place? stack = some place → place < 16
  /-- No other place changes. -/
  others : ∀ place, request.place? stack ≠ some place →
    (stack.serve request).2.slots[place]? = stack.slots[place]?
  /-- An address that is recorded goes there. -/
  written : ∀ address place, request = .push address → request.place? stack = some place →
    (stack.serve request).2.slots[place]? = some address
  /-- An address that is taken off comes from there. -/
  read : ∀ place, request = .pop → request.place? stack = some place →
    (stack.serve request).1 = .ok stack.slots[place]?

/-- A request that comes to no place leaves all of them alone. -/
theorem touches_of_nowhere {request : Request} (nowhere : request.place? stack = none)
    (kept : (stack.serve request).2.slots = stack.slots) : stack.Touches request := by
  -- What is said of the place to which a request comes is said of none.
  have never (place : Nat) : request.place? stack ≠ some place := by simp [nowhere]
  exact
    { within := fun place here => (never place here).elim
      others := fun place _ => by rw [kept]
      written := fun _ place _ here => (never place here).elim
      read := fun place _ here => (never place here).elim }

/-- Any request has to do with the places of a stack as it should. -/
theorem touches (stack : ReturnStack) (request : Request) : stack.Touches request := by
  -- A request either fails its check and comes to no place, or it comes to the one that is checked
  -- for.
  cases request with
  | push address =>
    by_cases full : stack.size = 16
    · -- The check turns the address away before any place is reached.
      refine touches_of_nowhere ?_ ?_
      · simp [Request.place?, isFull, full]
      · rw [serve_push_of_full full]
    · -- A stack that is not full has a place behind those that count.
      have room : stack.size < 16 := by have := stack.size_le; omega
      have here : (Request.push address).place? stack = some stack.size := by
        simp [Request.place?, isFull, full]
      have served := serve_push_of_lt room address
      refine ⟨?_, ?_, ?_, nofun⟩
      · -- The number of addresses is itself the place.
        rintro place reached
        cases here.symm.trans reached
        exact room
      · -- Writing to one place of a row leaves the others as they were.
        intro place elsewhere
        have apart : stack.size ≠ place := fun same => elsewhere (same ▸ here)
        rw [served]
        exact Vector.getElem?_set_ne room apart
      · -- At the place itself the address is found that was written.
        rintro _ place ⟨⟩ reached
        cases here.symm.trans reached
        rw [served]
        exact Vector.getElem?_set_self room
  | pop =>
    by_cases none : stack.size = 0
    · -- There is no latest address, so that no place is reached.
      refine touches_of_nowhere ?_ ?_
      · simp [Request.place?, isEmpty, none]
      · rw [serve_pop_of_zero none]
    · -- A stack that is not empty has its latest address in a place.
      have here : Request.pop.place? stack = some (stack.size - 1) := by
        simp [Request.place?, isEmpty, none]
      obtain ⟨next, served, kept⟩ := serve_pop_of_pos (Nat.pos_of_ne_zero none)
      refine ⟨?_, ?_, nofun, ?_⟩
      · intro place reached
        cases here.symm.trans reached
        have := stack.size_le
        omega
      · -- Taking an address off moves the number and writes to no place.
        intro place elsewhere
        rw [served, kept]
      · intro place _ reached
        cases here.symm.trans reached
        rw [served]
  -- Forgetting all addresses sets the number back and leaves the places alone.
  | clear => exact touches_of_nowhere rfl rfl

/-- The addresses of a stack are in its first places, one in each. -/
theorem map_some_toList (stack : ReturnStack) :
    stack.toList.map some = (List.range stack.size).map fun place => stack.slots[place]? := by
  -- Both rows have as many members as addresses count, and are compared place by place.
  refine List.ext_getElem (by simp) fun place listed _ => ?_
  -- There is a place for each address that counts.
  have counts : place < stack.size := by simpa using listed
  have within : place < 16 := Nat.lt_of_lt_of_le counts stack.size_le
  simp [toList, within]

/--
A stack meets all requests like a plain list of at most sixteen addresses, and shows the same behind
each of them.

What its places hold beyond the addresses that count can neither be taken off nor be seen. Whatever is
shown, recorded or taken off has a place that is there.
-/
theorem requests_are_met_as_by_list :
    (∀ requests : List Request,
      trace serve sight empty requests = trace serveList sightList [] requests) ∧
    (∀ first second : ReturnStack, first.toList = second.toList → ∀ requests : List Request,
      trace serve sight first requests = trace serve sight second requests) ∧
    (∀ stack : ReturnStack,
      stack.toList.map some = (List.range stack.size).map fun place => stack.slots[place]?) ∧
    ∀ (stack : ReturnStack) (request : Request), stack.Touches request := by
  refine ⟨trace_eq_trace_list empty, ?_, map_some_toList, touches⟩
  -- Both traces are that of the one list, whatever else the places hold.
  intro first second same requests
  rw [trace_eq_trace_list first, trace_eq_trace_list second, same]

/-- A stack whose places still hold two addresses answers like one that has never been used. -/
theorem requests_are_met_as_by_list_over_old_addresses :
    ∃ used : ReturnStack, used.slots[0] = 0x202 ∧ used.slots[1] = 0x204 ∧
      used.toList = empty.toList ∧
      trace serve sight used [.pop, .push 0x300, .pop] =
        trace serve sight empty [.pop, .push 0x300, .pop] ∧
      trace serve sight empty [.pop, .push 0x300, .pop] =
        [(.error .noPendingCall, ⟨[], 0, true, false⟩), (.ok none, ⟨[0x300], 1, false, false⟩),
          (.ok (some 0x300), ⟨[], 0, true, false⟩)] := by
  -- Two calls are recorded and forgotten, so that their addresses remain in places that do not
  -- count.
  let used := ((empty.serve (.push 0x202)).2.serve (.push 0x204)).2.clear
  obtain ⟨met, unseen, -⟩ := requests_are_met_as_by_list
  refine ⟨used, rfl, rfl, rfl, unseen used empty rfl _, ?_⟩
  rw [met]
  rfl

end ReturnStack

end ChipEight
