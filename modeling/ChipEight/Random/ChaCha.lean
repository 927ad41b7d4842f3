import ChipEight.Nibble

/-! The ChaCha block function with twelve rounds, a key of eight words and a block counter. -/

namespace ChipEight.ChaCha

/-- A word with its bits moved left around its width. -/
def rotateLeft (word distance : UInt32) : UInt32 :=
  word <<< distance ||| word >>> (32 - distance)

/-- Mixes four of the sixteen words. -/
def quarterRound (words : Vector UInt32 16) (a b c d : Nibble) : Vector UInt32 16 :=
  -- Each of the four words is changed twice, always by its neighbour in the cycle.
  let words := words.set a (words[a] + words[b])
  let words := words.set d (rotateLeft (words[d] ^^^ words[a]) 16)
  let words := words.set c (words[c] + words[d])
  let words := words.set b (rotateLeft (words[b] ^^^ words[c]) 12)
  let words := words.set a (words[a] + words[b])
  let words := words.set d (rotateLeft (words[d] ^^^ words[a]) 8)
  let words := words.set c (words[c] + words[d])
  words.set b (rotateLeft (words[b] ^^^ words[c]) 7)

/-- The quarters of two rounds, first the columns and then the diagonals. -/
def quarters : List (Nat × Nat × Nat × Nat) :=
  [(0, 4, 8, 12), (1, 5, 9, 13), (2, 6, 10, 14), (3, 7, 11, 15),
   (0, 5, 10, 15), (1, 6, 11, 12), (2, 7, 8, 13), (3, 4, 9, 14)]

/-- One round over the columns and one over the diagonals. -/
def doubleRound (words : Vector UInt32 16) : Vector UInt32 16 :=
  quarters.foldl
    (fun mixed (a, b, c, d) => quarterRound mixed (.ofNat a) (.ofNat b) (.ofNat c) (.ofNat d))
    words

/-- The four words that begin every block. -/
def constants : Vector UInt32 4 :=
  #v[0x61707865, 0x3320646E, 0x79622D32, 0x6B206574]

/-- The words before the rounds, namely the constants, the key and the counter of the block. -/
def start (key : Vector UInt32 8) (counter : UInt64) : Vector UInt32 16 :=
  constants ++ key ++ #v[counter.toUInt32, (counter >>> 32).toUInt32, 0, 0]

/-- The sixteen words of a block, the rounds' outcome added to the words before them. -/
def block (key : Vector UInt32 8) (counter : UInt64) : Vector UInt32 16 :=
  let before := start key counter
  -- Six double rounds are the twelve rounds of this variant.
  let mixed := Nat.repeat doubleRound 6 before
  mixed.zipWith (· + ·) before

end ChipEight.ChaCha
