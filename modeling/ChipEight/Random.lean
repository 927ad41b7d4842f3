import ChipEight.Random.ChaCha

/-! The random source, a stream of bytes fixed by a seed and a position in it. -/

namespace ChipEight

/-- A seeded stream of bytes and the number of bytes already drawn. -/
structure Random where
  /-- The key from which the whole stream follows. -/
  key : Vector UInt32 8
  /-- The number of bytes drawn so far. -/
  drawn : Nat
deriving DecidableEq

namespace Random

/-- One step of the congruential sequence that spreads a seed over the key. -/
def advance (state : UInt64) : UInt64 :=
  state * 6364136223846793005 + 11634580027462260723

/-- The key word of one state, its folded bits turned right by its highest five bits. -/
def keyWord (state : UInt64) : UInt32 :=
  let folded := (((state >>> 18) ^^^ state) >>> 27).toUInt32
  let turn := (state >>> 59).toUInt32
  folded >>> turn ||| folded <<< ((32 - turn) % 32)

/-- The key that a seed stands for. -/
def keyOfSeed (seed : UInt64) : Vector UInt32 8 :=
  Vector.ofFn fun index => keyWord (Nat.repeat advance (index.val + 1) seed)

/-- The beginning of the stream of a seed. -/
def ofSeed (seed : UInt64) : Random where
  key := keyOfSeed seed
  drawn := 0

/-- The byte at a position of the stream, the low byte of the word there. -/
def byteAt (key : Vector UInt32 8) (position : Nat) : UInt8 :=
  let words := ChaCha.block key (UInt64.ofNat (position / 16))
  words[Nibble.ofNat position].toUInt8

/-- Draws the byte at the current position. -/
def next (random : Random) : UInt8 × Random :=
  (byteAt random.key random.drawn, { random with drawn := random.drawn + 1 })

/-- Draws several bytes one after the other. -/
def take (random : Random) : Nat → List UInt8 × Random
  | 0 => ([], random)
  | count + 1 =>
    let (byte, moved) := random.next
    let (rest, final) := moved.take count
    (byte :: rest, final)

example : (ofSeed 42).next.1 = 0xA2 := by decide +kernel

/-- Drawing a byte moves the position by one. -/
@[simp] theorem drawn_next (random : Random) : random.next.2.drawn = random.drawn + 1 := rfl

/-- Drawing a byte keeps the stream. -/
@[simp] theorem key_next (random : Random) : random.next.2.key = random.key := rfl

/-- Drawing several bytes yields the stream from the current position on. -/
theorem take_eq (random : Random) (count : Nat) :
    random.take count =
      ((List.range count).map fun offset => byteAt random.key (random.drawn + offset),
        { random with drawn := random.drawn + count }) := by
  -- Each draw moves the position by one, so the rest is the stream from the next position.
  induction count generalizing random with
  | zero => rfl
  | succ count ih =>
    simp only [take, ih]
    simp [next, List.range_succ_eq_map, Nat.add_assoc, Nat.add_comm 1, Function.comp_def]

end Random

end ChipEight
