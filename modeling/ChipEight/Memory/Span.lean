import ChipEight.Memory

/-! Ranges of memory whose length is any machine word, so that their end may be no machine word. -/

namespace ChipEight

/-- Why the bytes of a range cannot be had. -/
inductive SpanFault where
  /-- The range runs past the end of memory. -/
  | outside (fault : Fault)
  /-- The end of the range is too great for a machine word, which is noticed when it is reckoned. -/
  | overflow
deriving DecidableEq, Repr

/-- The words for a range that cannot be had. -/
def SpanFault.message : SpanFault → String
  | outside fault => fault.message
  | overflow => "attempt to add with overflow"

namespace Memory

/-- The bytes of a range whose end is reckoned as a machine word. -/
def readSpan (memory : Memory) (address : UInt16) (length : UInt64) :
    Except SpanFault (List UInt8) :=
  -- The sum comes before the check of the range that it is made for.
  if UInt64.size ≤ address.toNat + length.toNat then
    .error .overflow
  else
    (memory.readBytes address length.toNat).mapError .outside

/-- An end that is no machine word is never compared with the end of memory. -/
theorem readSpan_of_ge (memory : Memory) {address : UInt16} {length : UInt64}
    (great : UInt64.size ≤ address.toNat + length.toNat) :
    memory.readSpan address length = .error .overflow :=
  if_pos great

/-- Where the end of a range is a machine word, both ways of reading agree. -/
theorem readSpan_of_lt (memory : Memory) {address : UInt16} {length : UInt64}
    (small : address.toNat + length.toNat < UInt64.size) :
    memory.readSpan address length =
      (memory.readBytes address length.toNat).mapError .outside :=
  if_neg (Nat.not_le.mpr small)

end Memory

end ChipEight
