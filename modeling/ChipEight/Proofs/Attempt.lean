import ChipEight.Attempt

/-! Attempts that have succeeded, and those that a fault stops before anything has been changed. -/

namespace ChipEight.Attempt

variable {owner part value result : Type}

/-- An attempt made of two has succeeded in both of them. -/
theorem ok_of_bind {first : Attempt part value} {next : value → Attempt part result}
    {before after : part} {answer : result}
    (succeeded : (first >>= next).run before = .ok answer after) :
    ∃ middle state, first.run before = .ok middle state ∧
      (next middle).run state = .ok answer after := by
  -- Had the first one failed, so would the two together.
  rw [EStateM.run_bind] at succeeded
  cases outcome : first.run before with
  | ok middle state =>
    rw [outcome] at succeeded
    exact ⟨middle, state, rfl, succeeded⟩
  | error fault state =>
    rw [outcome] at succeeded
    cases succeeded

/-- What follows a look at the part has succeeded on the part that was seen. -/
theorem ok_of_bind_get {next : part → Attempt part value} {before after : part} {answer : value}
    (succeeded : (get >>= next).run before = .ok answer after) :
    (next before).run before = .ok answer after := by
  -- The look itself always succeeds and leaves the part as it was.
  obtain ⟨seen, state, looked, rest⟩ := ok_of_bind succeeded
  cases looked
  exact rest

/-- A question that was answered has left the part alone. -/
theorem ok_of_ofExcept {question : Except Fault value} {before after : part} {answer : value}
    (succeeded : (ofExcept question).run before = .ok answer after) :
    question = .ok answer ∧ after = before := by
  -- A fault in place of the answer would have been the outcome.
  cases question with
  | ok found =>
    cases succeeded
    exact ⟨rfl, rfl⟩
  | error fault => cases succeeded

/-- An attempt in place that has succeeded has changed only the part it is about. -/
theorem ok_of_inside {view : owner → part} {put : owner → part → owner}
    {attempt : Attempt part value} {before after : owner} {answer : value}
    (succeeded : (inside view put attempt).run before = .ok answer after) :
    ∃ changed, attempt.run (view before) = .ok answer changed ∧ after = put before changed := by
  -- The outcome is that of the part, put back in its place.
  rw [run_inside] at succeeded
  cases outcome : attempt.run (view before) with
  | ok found changed =>
    rw [outcome] at succeeded
    cases succeeded
    exact ⟨changed, rfl, rfl⟩
  | error fault changed =>
    rw [outcome] at succeeded
    cases succeeded

/-- A change without any check has been made as it is. -/
theorem ok_of_modify {change : part → part} {before after : part} {answer : Unit}
    (succeeded : (modify change : Attempt part Unit).run before = .ok answer after) :
    after = change before := by
  cases succeeded
  rfl

/-- A fault stops the attempt with the part untouched, or nothing stops it. -/
def StoppedBy (attempt : Attempt part value) (before : part) : Option Fault → Prop
  | some fault => attempt.run before = .error fault before
  | none => ∃ answer after, attempt.run before = .ok answer after

/-- An attempt that has failed was stopped by its fault, without any change. -/
theorem StoppedBy.eq_of_error {attempt : Attempt part value} {before after : part}
    {reason : Option Fault} {fault : Fault} (stopped : attempt.StoppedBy before reason)
    (failed : attempt.run before = .error fault after) : reason = some fault ∧ after = before := by
  -- Both say how the same run ends.
  cases reason with
  | none =>
    obtain ⟨answer, changed, succeeded⟩ := stopped
    rw [succeeded] at failed
    cases failed
  | some expected =>
    have same := stopped.symm.trans failed
    cases same
    exact ⟨rfl, rfl⟩

/-- What cannot fail adds no reason to be stopped to what comes before it. -/
theorem StoppedBy.bind {first : Attempt part value} {next : value → Attempt part result}
    {before : part} {reason : Option Fault} (stopped : first.StoppedBy before reason)
    (rest : ∀ answer state, (next answer).StoppedBy state none) :
    (first >>= next).StoppedBy before reason := by
  -- A fault ends the first attempt before the second begins.
  cases reason with
  | some fault =>
    have failed : first.run before = .error fault before := stopped
    show (first >>= next).run before = .error fault before
    rw [EStateM.run_bind, failed]
  | none =>
    -- Without one the second begins where the first has ended, and nothing stops it there.
    obtain ⟨answer, after, succeeded⟩ := stopped
    obtain ⟨final, changed, finished⟩ := rest answer after
    refine ⟨final, changed, ?_⟩
    rw [EStateM.run_bind, succeeded]
    exact finished

/-- Looking at the part first does not change what stops an attempt. -/
theorem StoppedBy.bind_get {next : part → Attempt part value} {before : part}
    {reason : Option Fault} (stopped : (next before).StoppedBy before reason) :
    (get >>= next).StoppedBy before reason := by
  -- A look hands on the part unchanged, so what stops the rest is what stops the whole.
  cases reason with
  | some fault => exact stopped
  | none => exact stopped

/-- Inside of its owner an attempt is stopped by what stops it on its own. -/
theorem StoppedBy.inside {view : owner → part} {put : owner → part → owner}
    {attempt : Attempt part value} {before : owner} {reason : Option Fault}
    (unmoved : put before (view before) = before)
    (stopped : attempt.StoppedBy (view before) reason) :
    (Attempt.inside view put attempt).StoppedBy before reason := by
  cases reason with
  | some fault =>
    -- The part that the fault leaves behind is the one that was taken out.
    have failed : attempt.run (view before) = .error fault (view before) := stopped
    show (Attempt.inside view put attempt).run before = .error fault before
    simp only [run_inside, failed, unmoved]
  | none =>
    -- What has succeeded is put back into the owner.
    obtain ⟨answer, after, succeeded⟩ := stopped
    refine ⟨answer, put before after, ?_⟩
    simp only [run_inside, succeeded]

/-- A change without any check is never stopped. -/
theorem stoppedBy_modify (change : part → part) (before : part) :
    (modify change : Attempt part Unit).StoppedBy before none :=
  ⟨(), change before, rfl⟩

end ChipEight.Attempt
