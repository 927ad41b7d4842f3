import ChipEight.Fault

/-! Changes that a fault may cut short, which leave behind whatever was changed before it. -/

namespace ChipEight

/-- A change of some part of the machine, cut short by a fault where the part then stands. -/
abbrev Attempt (part value : Type) := EStateM Fault part value

namespace Attempt

variable {owner part value : Type}

/-- The answer to a question, or the fault that stands in its place. -/
def ofExcept (answer : Except Fault value) : Attempt part value :=
  match answer with
  | .ok value => pure value
  | .error fault => throw fault

/-- An attempt at a part of something larger, carried out in place. -/
def inside (view : owner → part) (put : owner → part → owner) (attempt : Attempt part value) :
    Attempt owner value := fun whole =>
  match attempt.run (view whole) with
  | .ok value changed => .ok value (put whole changed)
  | .error fault changed => .error fault (put whole changed)

/-- A question that has an answer leaves the part alone. -/
@[simp] theorem run_ofExcept_ok (answer : value) (state : part) :
    (ofExcept (.ok answer)).run state = .ok answer state := rfl

/-- A question that meets a fault leaves the part alone as well. -/
@[simp] theorem run_ofExcept_error (fault : Fault) (state : part) :
    (ofExcept (.error fault) : Attempt part value).run state = .error fault state := rfl

/-- A fault leaves the part as it stands, whatever was still to be computed. -/
@[simp] theorem run_throw (fault : Fault) (state : part) :
    (throw fault : Attempt part value).run state = .error fault state := rfl

/-- An attempt in place runs on the part that its owner shows. -/
theorem run_inside (view : owner → part) (put : owner → part → owner)
    (attempt : Attempt part value) (whole : owner) :
    (inside view put attempt).run whole =
      match attempt.run (view whole) with
      | .ok value changed => .ok value (put whole changed)
      | .error fault changed => .error fault (put whole changed) := rfl

/-- What becomes of the value of an attempt does not touch the part. -/
@[simp] theorem run_map {result : Type} (change : value → result) (attempt : Attempt part value)
    (state : part) :
    (change <$> attempt).run state =
      match attempt.run state with
      | .ok value changed => .ok (change value) changed
      | .error fault changed => .error fault changed := by
  -- Both outcomes of the attempt are passed on as they are.
  simp only [Functor.map, EStateM.map, EStateM.run]
  cases attempt state <;> rfl

end Attempt

end ChipEight
