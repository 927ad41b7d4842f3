import ChipEight.Proofs.CommandLine.Reading

/-! The pace that a command line gives to the machine comes as near to the speed asked for as whole
cycles in a frame can, and does not divide by zero. -/

namespace ChipEight.CommandLine

variable {options faster : Options} {cycles more : UInt64}

/-- So many cycles in a frame come nearest to a speed from below, and are one at least. -/
structure KeepsPace (options : Options) (cycles : UInt64) : Prop where
  /-- There is a cycle in every frame. -/
  positive : 1 ≤ cycles.toNat
  /-- Where the cycles asked for are enough for one in every frame, no more are carried out. -/
  within : options.frameRate.toNat ≤ options.speed.toNat →
    cycles.toNat * options.frameRate.toNat ≤ options.speed.toNat
  /-- One cycle more in every frame would be too many. -/
  nearest : options.speed.toNat < (cycles.toNat + 1) * options.frameRate.toNat
  /-- Fewer are missing in a second than there are frames. -/
  shortfall : options.speed.toNat - cycles.toNat * options.frameRate.toNat <
    options.frameRate.toNat
  /-- Where they are not enough for one in every frame, there is one all the same. -/
  least : options.speed.toNat < options.frameRate.toNat → cycles = 1

/-- Where there are frames, the cycles of each are its share of a second or one. -/
theorem toNat_of_cyclesPerFrame (shared : options.cyclesPerFrame = .ok cycles) :
    cycles.toNat = max (options.speed.toNat / options.frameRate.toNat) 1 := by
  -- Frames that are there are not none, so a division is what the options have come to.
  unfold Options.cyclesPerFrame at shared
  split at shared
  · cases shared
  · cases shared
    rw [← UInt64.toNat_div]
    -- What is shared out is compared with one as a machine word, which is to compare the numbers.
    show (if options.speed / options.frameRate ≤ 1 then 1
      else options.speed / options.frameRate).toNat = _
    split
    case isTrue small =>
      have least := UInt64.le_iff_toNat_le.mp small
      exact (Nat.max_eq_right least).symm
    case isFalse large =>
      have many := mt UInt64.le_iff_toNat_le.mpr large
      exact (Nat.max_eq_left (Nat.le_of_not_le many)).symm

/-- Where there are frames, each has its cycles. -/
theorem exists_cyclesPerFrame (frames : 0 < options.frameRate.toNat) :
    ∃ cycles, options.cyclesPerFrame = .ok cycles := by
  -- Only a frame rate of zero leads to a fault.
  cases shared : options.cyclesPerFrame with
  | ok cycles => exact ⟨cycles, rfl⟩
  | error fault =>
    have none := (options.cyclesPerFrame_eq_error_iff fault).mp shared
    rw [none] at frames
    exact absurd frames (by decide)

/-- The share of a frame keeps the pace. -/
theorem keepsPace (frames : 0 < options.frameRate.toNat)
    (shared : options.cyclesPerFrame = .ok cycles) : KeepsPace options cycles := by
  -- The quotient is the greatest number of cycles that is not too great for the speed.
  have share := toNat_of_cyclesPerFrame shared
  have below := Nat.div_mul_le_self options.speed.toNat options.frameRate.toNat
  have above : options.speed.toNat <
      (options.speed.toNat / options.frameRate.toNat + 1) * options.frameRate.toNat := by
    rw [Nat.mul_comm]
    exact Nat.lt_mul_div_succ _ frames
  by_cases enough : options.frameRate.toNat ≤ options.speed.toNat
  · -- The share of a frame is one at least, so that the bound from below changes nothing.
    have one := Nat.div_pos enough frames
    rw [Nat.max_eq_left one] at share
    rw [← share] at below above one
    rw [Nat.add_mul] at above
    refine ⟨one, fun _ => below, ?_, by omega, fun slow => ?_⟩
    · rw [Nat.add_mul]
      exact above
    · omega
  · -- There is no share of a frame, so that one cycle stands in for it.
    have none := Nat.div_eq_of_lt (Nat.not_le.mp enough)
    rw [none] at share
    have one : cycles.toNat = 1 := share
    have single : cycles = 1 := UInt64.toNat_inj.mp share
    refine ⟨Nat.le_of_eq one.symm, fun fast => (enough fast).elim, ?_, by omega, fun _ => single⟩
    rw [one]
    omega

/-- A higher speed or a lower frame rate never leaves fewer cycles to a frame. -/
theorem cyclesPerFrame_mono (frames : 0 < faster.frameRate.toNat)
    (speed : options.speed.toNat ≤ faster.speed.toNat)
    (rate : faster.frameRate.toNat ≤ options.frameRate.toNat)
    (shared : options.cyclesPerFrame = .ok cycles) (other : faster.cyclesPerFrame = .ok more) :
    cycles.toNat ≤ more.toNat := by
  -- The quotient grows with the speed and falls with the frame rate, and so does the greater of it
  -- and one.
  have share := Nat.div_le_div speed rate (Nat.ne_of_gt frames)
  rw [toNat_of_cyclesPerFrame shared, toNat_of_cyclesPerFrame other]
  omega

/-- A command line that is accepted asks for frames. -/
theorem frames_of_parse {args : List String} (accepted : parse args = .ok options) :
    0 < options.frameRate.toNat :=
  -- A frame rate in range is one at least.
  (inRange_of_parse accepted .frameRate _ rfl).1

/-- The options of a command line share out the speed asked for among the frames without fail. The
cycles of a frame come nearest to its share from below, or are one where that is none, and they never
grow fewer as the speed grows, nor more as the frame rate does. -/
theorem command_line_keeps_pace {args : List String} (accepted : parse args = .ok options) :
    ∃ cycles, options.cyclesPerFrame = .ok cycles ∧ KeepsPace options cycles ∧
      ∀ others faster more, parse others = .ok faster → faster.cyclesPerFrame = .ok more →
        options.speed.toNat ≤ faster.speed.toNat →
        faster.frameRate.toNat ≤ options.frameRate.toNat → cycles.toNat ≤ more.toNat := by
  -- No command line is accepted that asks for no frames, so the division is by a positive number.
  have frames := frames_of_parse accepted
  obtain ⟨cycles, shared⟩ := exists_cyclesPerFrame frames
  refine ⟨cycles, shared, keepsPace frames shared, ?_⟩
  -- Both command lines ask for frames, so both paces are quotients.
  intro others faster more acceptedToo sharedToo speed rate
  exact cyclesPerFrame_mono (frames_of_parse acceptedToo) speed rate shared sharedToo

/-- At seven frames a second a thousand instructions leave 142 to a frame, and six instructions leave
one. -/
theorem command_line_keeps_pace_at_seven_frames :
    ∃ many few : UInt64,
      (⟨"a.ch8", 7, 1000, none⟩ : Options).cyclesPerFrame = .ok many ∧
      (⟨"a.ch8", 7, 6, none⟩ : Options).cyclesPerFrame = .ok few ∧
      many.toNat * 7 ≤ 1000 ∧ 1000 < (many.toNat + 1) * 7 ∧ few = 1 ∧ few.toNat ≤ many.toNat := by
  -- Numerals are given in either way, and in either order.
  have fast : parse ["a.ch8", "--ips", "1000", "--frame-rate=7"] =
      .ok ⟨"a.ch8", 7, 1000, none⟩ := rfl
  have slow : parse ["--ips=6", "--frame-rate", "7", "a.ch8"] = .ok ⟨"a.ch8", 7, 6, none⟩ := rfl
  obtain ⟨many, shared, pace, -⟩ := command_line_keeps_pace fast
  obtain ⟨few, sharedToo, paceToo, mono⟩ := command_line_keeps_pace slow
  exact ⟨many, few, shared, sharedToo, pace.within (by decide), pace.nearest,
    paceToo.least (by decide), mono _ _ _ fast shared (by decide) (by decide)⟩

end ChipEight.CommandLine
