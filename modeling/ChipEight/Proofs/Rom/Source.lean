import ChipEight.Rom.Source

/-! What reading a source gives in the end, whatever the portions in which its bytes come. -/

namespace ChipEight

namespace Source

/-- The bytes that reading can come upon, which are none if a request never yields any. -/
def visible (source : Source) : List UInt8 :=
  if source.portion = some 0 then [] else source.data

/-- The number of bytes after which a source fails for good with its reason, if it does. -/
def failure? (source : Source) : Option (Nat × ReadFailure) :=
  match source.disturbance with
  | some ⟨after, some reason⟩ => some (after, reason)
  | _ => none

/-- The bytes that are had from a source up to a limit, and why there are no more of them if it
fails before the limit is reached. -/
def yield (source : Source) (limit : Nat) : List UInt8 × Option ReadFailure :=
  match source.failure? with
  -- A failure right behind the last byte counts, and one at the limit does not.
  | some (after, reason) =>
    if after ≤ source.visible.length ∧ after < limit then (source.visible.take after, some reason)
    else (source.visible.take limit, none)
  | none => (source.visible.take limit, none)

/-- Requests that yield bytes come upon all of them. -/
theorem visible_of_portion_ne {source : Source} (yields : source.portion ≠ some 0) :
    source.visible = source.data :=
  if_neg yields

/-- The ways in which a source answers a request for at least one byte. -/
inductive Answers (source : Source) (limit : Nat) : Answer → Prop
  /-- The source fails without a further byte. -/
  | failed {reason : ReadFailure} (now : source.failure? = some (0, reason)) :
    Answers source limit (.failed reason)
  /-- The source is interrupted and has yet to hand out what it had. -/
  | interrupted {rest : Source} (lasting : source.failure? = none) (same : rest.failure? = none)
    (kept : rest.visible = source.visible) : Answers source limit (.interrupted rest)
  /-- The source hands out the first of its bytes, none of them past the point of failure. -/
  | bytes {taken : List UInt8} {rest : Source} (few : taken.length ≤ limit)
    (split : source.visible = taken ++ rest.visible) (ended : taken = [] → source.visible = [])
    (before : ∀ after reason, source.failure? = some (after, reason) →
      0 < after ∧ taken.length ≤ after)
    (moved : rest.failure? = source.failure?.map fun failure =>
      (failure.1 - taken.length, failure.2)) :
    Answers source limit (.bytes taken rest)

/-- The number of bytes that a request is for is zero only if no request ever yields any. -/
theorem wanted_eq_zero_iff (source : Source) {limit : Nat} (asked : 0 < limit) :
    min limit (source.portion.getD limit) = 0 ↔ source.portion = some 0 := by
  -- A portion of zero is the only one that leaves nothing of a limit above zero.
  cases source.portion with
  | none => simp; omega
  | some portion => simp; omega

/-- Handing out the first `count` bytes is an answer, if that is none only where no request ever
yields any, and if they are not past the point of failure. -/
theorem answers_bytes {source rest : Source} {limit count : Nat} (few : count ≤ limit)
    (idle : count = 0 ↔ source.portion = some 0)
    (before : ∀ after reason, source.failure? = some (after, reason) → 0 < after ∧ count ≤ after)
    (portion : rest.portion = source.portion) (kept : rest.data = source.data.drop count)
    (moved : rest.failure? = source.failure?.map fun failure =>
      (failure.1 - (source.data.take count).length, failure.2)) :
    source.Answers limit (.bytes (source.data.take count) rest) := by
  -- A mute source, of which no request yields anything, has no bytes to come upon.
  have short : (source.data.take count).length ≤ count := List.length_take_le ..
  have split : source.visible = source.data.take count ++ rest.visible := by
    by_cases mute : source.portion = some 0
    · simp [visible, portion, mute, idle.mpr mute]
    · simp [visible, portion, mute, kept]
  have ended : source.data.take count = [] → source.visible = [] := by
    intro none
    by_cases mute : source.portion = some 0
    · simp [visible, mute]
    · have positive : count ≠ 0 := fun zero => mute (idle.mp zero)
      simpa [visible, mute, positive] using none
  refine .bytes (by omega) split ended ?_ moved
  intro after reason ahead
  have := before after reason ahead
  omega

/-- A request for at least one byte is answered in one of the three ways. -/
theorem answers_hand (source : Source) {limit : Nat} (asked : 0 < limit) :
    source.Answers limit (source.hand limit) := by
  have idle := source.wanted_eq_zero_iff asked
  have few : min limit (source.portion.getD limit) ≤ limit := Nat.min_le_left ..
  obtain ⟨data, portion, disturbance⟩ := source
  -- A refusal that is due comes before any byte.
  match disturbance with
  | none => exact answers_bytes few idle nofun rfl rfl rfl
  | some ⟨0, none⟩ => exact .interrupted rfl rfl rfl
  | some ⟨0, some reason⟩ => exact .failed rfl
  | some ⟨after + 1, lasting⟩ =>
    -- What is asked for is cut at the point of refusal, which is still some bytes ahead.
    refine answers_bytes (by omega) ?_ ?_ rfl ?_ ?_
    · rw [← idle]
      simp only
      omega
    · intro ahead reason fails
      cases lasting with
      | none => cases fails
      | some _ =>
        cases fails
        omega
    · show data.drop (data.take _).length = data.drop _
      rw [List.length_take, ← List.drop_eq_drop_min]
    · cases lasting <;> rfl

/-- An answer to a request that is not for nothing is one of the three. -/
theorem answers_of_hand {source : Source} {limit : Nat} {answer : Answer} (asked : ¬ limit = 0)
    (answered : source.hand limit = answer) : source.Answers limit answer :=
  answered ▸ source.answers_hand (Nat.pos_of_ne_zero asked)

/-- What is had up to a limit starts with the answer to the first request. -/
theorem yield_of_bytes {source rest : Source} {limit : Nat} {taken : List UInt8}
    (few : taken.length ≤ limit) (split : source.visible = taken ++ rest.visible)
    (before : ∀ after reason, source.failure? = some (after, reason) → taken.length ≤ after)
    (moved : rest.failure? = source.failure?.map fun failure =>
      (failure.1 - taken.length, failure.2)) :
    source.yield limit =
      (taken ++ (rest.yield (limit - taken.length)).1, (rest.yield (limit - taken.length)).2) := by
  -- The bytes up to the limit or to the failure are those taken and as many of the rest as remain.
  cases failure : source.failure? with
  | none =>
    rw [failure] at moved
    simp only [yield, failure, moved, split, Option.map_none]
    rw [List.take_append, List.take_of_length_le few]
  | some found =>
    obtain ⟨after, reason⟩ := found
    have ahead := before after reason failure
    rw [failure] at moved
    simp only [yield, failure, moved, split, Option.map_some, List.length_append]
    -- The failure is as near to the limit as it was before.
    have same : (after ≤ taken.length + rest.visible.length ∧ after < limit) ↔
        (after - taken.length ≤ rest.visible.length ∧
          after - taken.length < limit - taken.length) := by
      omega
    by_cases reached : after ≤ taken.length + rest.visible.length ∧ after < limit
    · rw [if_pos reached, if_pos (same.mp reached), List.take_append,
        List.take_of_length_le ahead]
    · rw [if_neg reached, if_neg fun later => reached (same.mpr later), List.take_append,
        List.take_of_length_le few]

/-- Up to a limit of zero nothing is had, as the source is not asked. -/
theorem yield_zero (source : Source) : source.yield 0 = ([], none) := by
  -- Nothing is taken, and a failure is never before the limit.
  unfold yield
  split <;> simp

/-- Where there are no bytes and no failure is next, nothing is had. -/
theorem yield_of_visible_eq_nil {source : Source} (limit : Nat) (ended : source.visible = [])
    (before : ∀ after reason, source.failure? = some (after, reason) → 0 < after) :
    source.yield limit = ([], none) := by
  -- A failure behind some bytes is not reached where there are none.
  cases failure : source.failure? with
  | none => simp [yield, failure, ended]
  | some found =>
    have ahead := before found.1 found.2 failure
    simp [yield, failure, ended, Nat.ne_of_gt ahead]

/-- Reading request by request gives what is had in the end, whatever the portions. -/
theorem drain_eq_yield (source : Source) (limit : Nat) :
    source.drain limit = source.yield limit := by
  -- Every request is for at least one byte, so it has one of the three answers.
  fun_induction drain source limit with
  | case1 source => exact source.yield_zero.symm
  | case2 source limit asked reason answered =>
    -- The source fails before it hands out anything.
    cases answers_of_hand asked answered with
    | failed now => simp [yield, now, Nat.pos_of_ne_zero asked]
  | case3 source limit asked rest answered ih =>
    -- The request is repeated with the disturbance used up and no byte lost.
    cases answers_of_hand asked answered with
    | interrupted lasting same kept =>
      rw [ih]
      simp only [yield, lasting, same, kept]
  | case4 source limit asked taken rest answered none =>
    -- A request that yields nothing has come to the end.
    cases answers_of_hand asked answered with
    | bytes few split ended before moved =>
      have nil := ended (List.isEmpty_iff.mp none)
      exact (yield_of_visible_eq_nil limit nil fun after reason fails =>
        (before after reason fails).1).symm
  | case5 source limit asked taken rest answered some more failure result ih =>
    -- The rest is read up to what remains of the limit.
    cases answers_of_hand asked answered with
    | bytes few split ended before moved =>
      have within after reason fails := (before after reason fails).2
      rw [yield_of_bytes few split within moved, ← ih, result]

/-- A failure that is reached before the limit ends the reading. -/
theorem yield_of_failure {source : Source} {limit after : Nat} {reason : ReadFailure}
    (fails : source.failure? = some (after, reason)) (reached : after ≤ source.visible.length)
    (early : after < limit) : source.yield limit = (source.visible.take after, some reason) := by
  simp only [yield, fails, reached, early, and_self, if_true]

/-- Without such a failure the bytes are read up to the limit. -/
theorem yield_of_no_failure {source : Source} {limit : Nat}
    (unharmed : ∀ after reason, source.failure? = some (after, reason) →
      source.visible.length < after ∨ limit ≤ after) :
    source.yield limit = (source.visible.take limit, none) := by
  -- A failure is passed if it is behind the last byte or not before the limit.
  cases failure : source.failure? with
  | none => simp only [yield, failure]
  | some found =>
    have late := unharmed found.1 found.2 failure
    have passed : ¬ (found.1 ≤ source.visible.length ∧ found.1 < limit) := by omega
    simp only [yield, failure, if_neg passed]

/-- If reading did not fail, the bytes are those up to the limit. -/
theorem eq_take_of_yield {source : Source} {limit : Nat} {bytes : List UInt8}
    (had : source.yield limit = (bytes, none)) : bytes = source.visible.take limit := by
  -- All that is had without a failure is had up to the limit.
  unfold yield at had
  split at had
  · split at had <;> cases had
    rfl
  · cases had
    rfl

/-- No more is had from a source than the limit. -/
theorem length_yield_le (source : Source) (limit : Nat) :
    (source.yield limit).1.length ≤ limit := by
  -- A failure before the limit comes with fewer bytes still.
  unfold yield
  split
  · split
    · rw [List.length_take]
      omega
    · exact List.length_take_le ..
  · exact List.length_take_le ..

/-- A source offers a program image if its bytes fit, are as many as was reported, and can be read to
their end. -/
structure Offers (source : Source) (reported : Nat) : Prop where
  /-- The bytes fit into the program area. -/
  fits : source.visible.length ≤ 3584
  /-- They are as many as was reported. -/
  counted : source.visible.length = reported
  /-- A failure lies behind the request that finds no more of them. -/
  unfailing : ∀ after reason, source.failure? = some (after, reason) →
    source.visible.length < after

/-- Bytes that are handed out on request are an image whenever they fit. -/
theorem offers_ofBytes_iff (bytes : List UInt8) :
    (ofBytes bytes).Offers bytes.length ↔ bytes.length ≤ 3584 :=
  ⟨fun offers => offers.fits, fun fits => ⟨fits, rfl, nofun⟩⟩

end Source

namespace Rom

/-- An image that was made of bytes has just these bytes, which are as many as were reported. -/
theorem eq_of_ofReported {bytes : List UInt8} {reported : Nat} {rom : Rom}
    (made : ofReported bytes reported = .ok rom) : rom.bytes = bytes ∧ bytes.length = reported := by
  -- An image that does not fit is refused whatever was reported.
  by_cases fits : bytes.length ≤ 3584
  · -- Of the three outcomes for bytes that fit only the last is an image.
    rw [ofReported, ofBytes_of_le fits] at made
    simp only at made
    split at made
    · cases made
    · split at made <;> cases made
      exact ⟨rfl, by omega⟩
  · rw [ofReported, ofBytes_of_gt (by omega)] at made
    cases made

/-- Bytes that fit and are as many as were reported make an image. -/
theorem ofReported_length {bytes : List UInt8} (fits : bytes.length ≤ 3584) :
    ofReported bytes bytes.length = .ok ⟨bytes, fits⟩ := by
  simp only [ofReported, ofBytes_of_le fits, Nat.lt_irrefl, if_false]

/-- A report beyond the program area is refused without a byte being taken. -/
theorem ofSource_of_gt (source : Source) {reported : Nat} (overstated : 3584 < reported) :
    ofSource source reported = (.error (.tooLarge reported), 0) :=
  if_pos overstated

/-- Where a source fails while it is read there is no image. -/
theorem ofSource_of_failed {source : Source} {reported : Nat} {bytes : List UInt8}
    {failure : ReadFailure} (credible : reported ≤ 3584)
    (had : source.yield 3585 = (bytes, some failure)) :
    ofSource source reported = (.error (.unreadable failure), bytes.length) := by
  -- The reading has taken these bytes and then failed.
  have modest : ¬ 3584 < reported := Nat.not_lt.mpr credible
  simp only [ofSource, if_neg modest, Source.drain_eq_yield, had]

/-- Where reading does not fail the report decides about the image. -/
theorem ofSource_of_read {source : Source} {reported : Nat} {bytes : List UInt8}
    (credible : reported ≤ 3584) (had : source.yield 3585 = (bytes, none)) :
    ofSource source reported = (ofReported bytes reported, bytes.length) := by
  have modest : ¬ 3584 < reported := Nat.not_lt.mpr credible
  simp only [ofSource, if_neg modest, Source.drain_eq_yield, had]

/-- An image is refused by its report, or lost by a failure, or left to its report once it is read. -/
theorem ofSource_cases (source : Source) (reported : Nat) :
    ofSource source reported = (.error (.tooLarge reported), 0) ∨
    (∃ bytes failure, source.yield 3585 = (bytes, some failure) ∧
      ofSource source reported = (.error (.unreadable failure), bytes.length)) ∨
    ∃ bytes, source.yield 3585 = (bytes, none) ∧
      ofSource source reported = (ofReported bytes reported, bytes.length) := by
  -- The report is looked at first, and the source is read only if it is credible.
  by_cases overstated : 3584 < reported
  · exact .inl (ofSource_of_gt source overstated)
  have credible : reported ≤ 3584 := Nat.not_lt.mp overstated
  cases had : source.yield 3585 with
  | mk bytes failure =>
    cases failure with
    | some failure => exact .inr (.inl ⟨bytes, failure, rfl, ofSource_of_failed credible had⟩)
    | none => exact .inr (.inr ⟨bytes, rfl, ofSource_of_read credible had⟩)

/-- No more than one byte beyond the program area is ever taken from a source. -/
theorem consumed_ofSource_le (source : Source) (reported : Nat) :
    (ofSource source reported).2 ≤ 3585 := by
  -- Each of the three outcomes has taken what was had up to the limit, or nothing.
  have few := source.length_yield_le 3585
  rcases ofSource_cases source reported with refused | ⟨bytes, failure, had, lost⟩ |
    ⟨bytes, had, read⟩
  · rw [refused]
    exact Nat.zero_le _
  · rw [had] at few
    rw [lost]
    exact few
  · rw [had] at few
    rw [read]
    exact few

/-- An image that was had from a source has all the bytes that reading can come upon. -/
theorem bytes_of_ofSource {source : Source} {reported : Nat} {rom : Rom}
    (made : (ofSource source reported).1 = .ok rom) : rom.bytes = source.visible := by
  -- Only the last of the three outcomes can be an image.
  rcases ofSource_cases source reported with refused | ⟨bytes, failure, had, lost⟩ |
    ⟨bytes, had, read⟩
  · rw [refused] at made
    cases made
  · rw [lost] at made
    cases made
  · -- Bytes that fit are fewer than were asked for, so there were no others.
    rw [read] at made
    obtain ⟨same, -⟩ := eq_of_ofReported made
    have fits := rom.fits
    rw [same, Source.eq_take_of_yield had, List.length_take] at fits
    rw [same, Source.eq_take_of_yield had, List.take_of_length_le (by omega)]

/-- Exactly a source that offers an image as reported has one to be read. -/
theorem exists_ofSource_iff (source : Source) (reported : Nat) :
    (∃ rom, (ofSource source reported).1 = .ok rom) ↔ source.Offers reported := by
  constructor
  · rintro ⟨rom, made⟩
    have all := bytes_of_ofSource made
    have fits := rom.fits
    rw [all] at fits
    rcases ofSource_cases source reported with refused | ⟨bytes, failure, had, lost⟩ |
      ⟨bytes, had, read⟩
    · rw [refused] at made
      cases made
    · rw [lost] at made
      cases made
    · rw [read] at made
      obtain ⟨same, counted⟩ := eq_of_ofReported made
      rw [← same, all] at counted
      refine ⟨fits, counted, fun after reason fails => Nat.not_le.mp fun early => ?_⟩
      -- A failure up to the end would have been met before the limit.
      have met := Source.yield_of_failure fails early (show after < 3585 by omega)
      rw [had] at met
      cases met
  · rintro ⟨fits, rfl, unfailing⟩
    -- The bytes are read to their end, which comes before the limit.
    have had : source.yield 3585 = (source.visible.take 3585, none) :=
      Source.yield_of_no_failure fun after reason fails => .inl (unfailing after reason fails)
    rw [List.take_of_length_le (by omega)] at had
    rw [ofSource_of_read fits had, ofReported_length fits]
    exact ⟨_, rfl⟩

end Rom

end ChipEight
