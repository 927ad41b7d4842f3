/-! The options of a session and the pace that they give the machine. -/

namespace ChipEight

/-- What a player chooses when starting a session. -/
structure Options where
  /-- The path of the program image. -/
  rom : String
  /-- Frames in a second. -/
  frameRate : UInt64
  /-- Instructions in a second. -/
  speed : UInt64
  /-- The seed of the random source, if one was chosen. -/
  seed : Option UInt64
deriving DecidableEq, Repr

/-- Why a pace cannot be kept. -/
inductive PaceFault where
  /-- There are no frames among which the instructions could be shared out. -/
  | divisionByZero
deriving DecidableEq, Repr

/-- The words for a pace that cannot be kept. -/
def PaceFault.message : PaceFault → String
  | divisionByZero => "attempt to divide by zero"

namespace Options

/-- Frames in a second unless the player chooses otherwise. -/
def defaultFrameRate : UInt64 := 60

/-- Instructions in a second unless the player chooses otherwise. -/
def defaultSpeed : UInt64 := 700

/-- The share of instructions of one frame, at least one. -/
def cyclesPerFrame (options : Options) : Except PaceFault UInt64 :=
  if options.frameRate = 0 then
    .error .divisionByZero
  else
    .ok (max (options.speed / options.frameRate) 1)

/-- Only a frame rate of zero leaves a frame without a share. -/
theorem cyclesPerFrame_eq_error_iff (options : Options) (fault : PaceFault) :
    options.cyclesPerFrame = .error fault ↔ options.frameRate = 0 := by
  -- There is one fault only, and one branch that reports it.
  unfold cyclesPerFrame
  cases fault
  split <;> simp_all

end Options

end ChipEight
