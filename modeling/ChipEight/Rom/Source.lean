import ChipEight.Rom

/-! Sources that hand out bytes in portions and may fail, and the program images read from them. -/

namespace ChipEight

/-- A point at which a source refuses a request for bytes. -/
structure Disturbance where
  /-- The number of bytes that are still handed out before the refusal. -/
  after : Nat
  /-- Why the source refuses for good, or nothing for a single interruption. -/
  lasting : Option ReadFailure
deriving DecidableEq, Repr

/-- What a source has yet to hand out. -/
structure Source where
  /-- The bytes that remain. -/
  data : List UInt8
  /-- The most bytes that one request yields, if there is such a limit. -/
  portion : Option Nat
  /-- Where the source refuses, if it does. -/
  disturbance : Option Disturbance
deriving DecidableEq, Repr

namespace Source

/-- A source that hands out all of its bytes on request and never refuses. -/
def ofBytes (bytes : List UInt8) : Source where
  data := bytes
  portion := none
  disturbance := none

/-- The answer of a source to one request. -/
inductive Answer where
  /-- Some bytes, or none at the end, and what remains. -/
  | bytes (taken : List UInt8) (rest : Source)
  /-- A single interruption, after which the request may be repeated. -/
  | interrupted (rest : Source)
  /-- A failure that every further request meets again. -/
  | failed (reason : ReadFailure)
deriving DecidableEq, Repr

/-- Hands out at most `limit` bytes, never past the point of refusal. -/
def hand (source : Source) (limit : Nat) : Answer :=
  let wanted := min limit (source.portion.getD limit)
  match source.disturbance with
  | none =>
    .bytes (source.data.take wanted) { source with data := source.data.drop wanted }
  | some ⟨0, none⟩ => .interrupted { source with disturbance := none }
  | some ⟨0, some reason⟩ => .failed reason
  | some ⟨after + 1, lasting⟩ =>
    -- A refusal ahead shortens the request, so that it is met at a boundary.
    let taken := source.data.take (min wanted (after + 1))
    .bytes taken
      { source with
        data := source.data.drop taken.length
        disturbance := some ⟨after + 1 - taken.length, lasting⟩ }

/-- One while a disturbance is ahead, and zero otherwise. -/
def pending (source : Source) : Nat :=
  if source.disturbance.isSome then 1 else 0

/-- Handing out bytes keeps a disturbance ahead or absent. -/
theorem pending_of_hand_bytes {source rest : Source} {limit : Nat} {taken : List UInt8}
    (answered : source.hand limit = .bytes taken rest) : rest.pending = source.pending := by
  -- Bytes are handed out before a disturbance or where there is none.
  unfold hand at answered
  split at answered <;> cases answered <;> simp_all [pending]

/-- An interruption uses the disturbance up. -/
theorem pending_of_hand_interrupted {source rest : Source} {limit : Nat}
    (answered : source.hand limit = .interrupted rest) :
    rest.pending = 0 ∧ source.pending = 1 := by
  -- Only a source with a disturbance ahead is interrupted.
  unfold hand at answered
  split at answered <;> cases answered
  simp_all [pending]

/-- Reads to the end, to a failure or to `limit` bytes, repeating interrupted requests. -/
def drain (source : Source) (limit : Nat) : List UInt8 × Option ReadFailure :=
  if limit = 0 then
    ([], none)
  else
    match _answered : source.hand limit with
    | .failed reason => ([], some reason)
    -- An interrupted request is made once more, as nothing was taken.
    | .interrupted rest => rest.drain limit
    | .bytes taken rest =>
      -- No bytes for a request of some mean that the source has ended.
      if taken.isEmpty then
        ([], none)
      else
        let (more, failure) := rest.drain (limit - taken.length)
        (taken ++ more, failure)
termination_by limit + source.pending
decreasing_by
  · have := pending_of_hand_interrupted _answered
    omega
  · have := pending_of_hand_bytes _answered
    have : 0 < taken.length := by
      cases taken <;> simp_all
    omega

end Source

/-- A file that has been opened. -/
structure File where
  /-- What reading it yields. -/
  source : Source
  /-- The size that the system reports for it, which is that of its bytes for ordinary files only. -/
  reported : Nat
deriving DecidableEq, Repr

/-- An ordinary file of the given bytes. -/
def File.holding (bytes : List UInt8) : File where
  source := Source.ofBytes bytes
  reported := bytes.length

namespace Rom

/-- The image of bytes that were read, if they are as many as their source reported. -/
def ofReported (bytes : List UInt8) (reported : Nat) : Except LoadError Rom :=
  match ofBytes bytes with
  | .error error => .error error
  | .ok rom =>
    if bytes.length < reported then
      .error (.tooShort bytes.length reported)
    else if reported < bytes.length then
      .error (.tooLong bytes.length reported)
    else
      .ok rom

/-- The image read from a source that reports its size, and the number of bytes taken. -/
def ofSource (source : Source) (reported : Nat) : Except LoadError Rom × Nat :=
  if 3584 < reported then
    -- A report beyond the program area is refused without touching the source.
    (.error (.tooLarge reported), 0)
  else
    -- One byte more than fits is enough to notice a source that goes on.
    match source.drain 3585 with
    | (bytes, some failure) => (.error (.unreadable failure), bytes.length)
    | (bytes, none) => (ofReported bytes reported, bytes.length)

end Rom

end ChipEight
