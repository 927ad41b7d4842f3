/-! Program images that fit behind the program start, and the reasons why one cannot be had. -/

namespace ChipEight

/-- Where a program image begins in memory. -/
def programStart : Nat := 0x200

/-- A program image small enough for the program area. -/
structure Rom where
  /-- The bytes of the image. -/
  bytes : List UInt8
  /-- The image fits between the program start and the end of memory. -/
  fits : bytes.length ≤ 3584
deriving DecidableEq

/-- Why bytes could not be had from where they are kept. -/
inductive ReadFailure where
  /-- There is nothing of the given name. -/
  | missing
  /-- Reading failed for a reason that the system put into words. -/
  | failed (reason : String)
deriving DecidableEq, Repr

/-- The system's words for a failure to read. -/
def ReadFailure.message : ReadFailure → String
  | missing => "No such file or directory (os error 2)"
  | failed reason => reason

/-- Why a program image could not be loaded. -/
inductive LoadError where
  /-- The image has more bytes than the program area. -/
  | tooLarge (size : Nat)
  /-- The source held fewer bytes than it reported. -/
  | tooShort (read expected : Nat)
  /-- The source held more bytes than it reported. -/
  | tooLong (read expected : Nat)
  /-- The source could not be read. -/
  | unreadable (failure : ReadFailure)
deriving DecidableEq, Repr

/-- The sentence shown to the player for a failed load. -/
def LoadError.message : LoadError → String
  | tooLarge size =>
    "ROM is too large (" ++ toString size ++ " bytes), max size is 3584 bytes"
  | tooShort read expected =>
    "ROM read returned " ++ toString read ++ " bytes, expected " ++ toString expected
  | tooLong read expected =>
    "ROM read returned " ++ toString read ++ " bytes, more than the reported " ++
      toString expected
  | unreadable failure => "failed to read ROM: " ++ failure.message

/-- The messages from a failed load down to its deepest cause. -/
def LoadError.chain (error : LoadError) : List String :=
  match error with
  -- Of all reasons only a failure to read has a cause of its own.
  | unreadable failure => [error.message, failure.message]
  | _ => [error.message]

namespace Rom

/-- The image of the given bytes, unless they are too many. -/
def ofBytes (bytes : List UInt8) : Except LoadError Rom :=
  if fits : bytes.length ≤ 3584 then
    .ok ⟨bytes, fits⟩
  else
    .error (.tooLarge bytes.length)

/-- Bytes that fit are accepted unchanged. -/
theorem ofBytes_of_le {bytes : List UInt8} (fits : bytes.length ≤ 3584) :
    ofBytes bytes = .ok ⟨bytes, fits⟩ :=
  dif_pos fits

/-- Bytes that do not fit are refused with their number. -/
theorem ofBytes_of_gt {bytes : List UInt8} (large : 3584 < bytes.length) :
    ofBytes bytes = .error (.tooLarge bytes.length) :=
  dif_neg (Nat.not_le.mpr large)

end Rom

end ChipEight
