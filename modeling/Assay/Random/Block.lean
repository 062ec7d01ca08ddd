/-!
A keyed block function: sixteen words are mixed by twelve rounds of additions, exclusive ors and
rotations, and the starting words are added at the end.
-/

namespace Assay.Random

/-- Sixteen 32-bit words. -/
abbrev Block := Vector UInt32 16

/-- Eight 32-bit words. -/
abbrev Key := Vector UInt32 8

def rotateLeft (x : UInt32) (k : UInt32) : UInt32 := (x <<< k) ||| (x >>> (32 - k))

/-- Mix the words at four places. -/
def quarterRound (s : Block) (a b c d : Fin 16) : Block :=
  let s := s.set a (s[a] + s[b])
  let s := s.set d (rotateLeft (s[d] ^^^ s[a]) 16)
  let s := s.set c (s[c] + s[d])
  let s := s.set b (rotateLeft (s[b] ^^^ s[c]) 12)
  let s := s.set a (s[a] + s[b])
  let s := s.set d (rotateLeft (s[d] ^^^ s[a]) 8)
  let s := s.set c (s[c] + s[d])
  s.set b (rotateLeft (s[b] ^^^ s[c]) 7)

/-- Mix the columns of the four by four square, then its diagonals. -/
def doubleRound (s : Block) : Block :=
  let s := quarterRound s 0 4 8 12
  let s := quarterRound s 1 5 9 13
  let s := quarterRound s 2 6 10 14
  let s := quarterRound s 3 7 11 15
  let s := quarterRound s 0 5 10 15
  let s := quarterRound s 1 6 11 12
  let s := quarterRound s 2 7 8 13
  quarterRound s 3 4 9 14

def doubleRounds : Nat → Block → Block
  | 0, s => s
  | n + 1, s => doubleRounds n (doubleRound s)

/-- The words before mixing: four constants, the key, and the number of the block as two words,
the low one first. -/
def startingWords (key : Key) (number : UInt64) : Block :=
  #v[0x61707865, 0x3320646e, 0x79622d32, 0x6b206574,
    key[0], key[1], key[2], key[3], key[4], key[5], key[6], key[7],
    number.toUInt32, (number >>> 32).toUInt32, 0, 0]

/-- The block with the given number. -/
def keyedBlock (key : Key) (number : UInt64) : Block :=
  let start := startingWords key number
  (doubleRounds 6 start).zipWith (· + ·) start

/-- One word of a key and the next state of the seed: a linear congruential step, whose high bits
choose how its middle bits are rotated. -/
def keyWord (state : UInt64) : UInt32 × UInt64 :=
  let state := state * 6364136223846793005 + 11634580027462260723
  let folded := (((state >>> 18) ^^^ state) >>> 27).toUInt32
  let turn := (state >>> 59).toUInt32
  ((folded >>> turn) ||| (folded <<< ((32 - turn) &&& 31)), state)

/-- The key that a seed stands for. -/
def keyOfSeed (seed : UInt64) : Key :=
  let (w0, s) := keyWord seed
  let (w1, s) := keyWord s
  let (w2, s) := keyWord s
  let (w3, s) := keyWord s
  let (w4, s) := keyWord s
  let (w5, s) := keyWord s
  let (w6, s) := keyWord s
  let (w7, _) := keyWord s
  #v[w0, w1, w2, w3, w4, w5, w6, w7]

end Assay.Random
