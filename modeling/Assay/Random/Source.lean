import Assay.Random.Block

/-!
A source of random words: an endless stream of blocks, and the place of the next word in it.
-/

namespace Assay.Random

/-- A stream of blocks, the block that is being read, and the index of the next word in it.
Nothing below depends on which stream it is. -/
structure Source where
  stream : UInt64 → Block
  number : UInt64
  block : Block
  index : Nat

namespace Source

/-- The start of a stream. -/
def ofStream (stream : UInt64 → Block) : Source := ⟨stream, 0, stream 0, 0⟩

/-- The source that a seed stands for; equal seeds give equal words for ever. -/
def ofSeed (seed : UInt64) : Source := ofStream (keyedBlock (keyOfSeed seed))

/-- The next word. -/
def next32 (s : Source) : UInt32 × Source :=
  if h : s.index < 16 then (s.block[s.index], { s with index := s.index + 1 })
  else
    let number := s.number + 1
    let block := s.stream number
    (block[0], { s with number, block, index := 1 })

/-- The next two words as one, the low one first. They need not lie in one block. -/
def next64 (s : Source) : UInt64 × Source :=
  let (low, s) := s.next32
  let (high, s) := s.next32
  ((high.toUInt64 <<< 32) ||| low.toUInt64, s)

end Source

/-- Words of one size, and how a source gives the next one of them. -/
structure Words where
  bits : Nat
  next : Source → Nat × Source
  next_lt : ∀ s, (next s).1 < 2 ^ bits

namespace Words

/-- The words of a source one by one. -/
def single : Words where
  bits := 32
  next s :=
    let (v, s) := s.next32
    (v.toNat, s)
  next_lt s := s.next32.1.toNat_lt

/-- The words of a source two by two. -/
def double : Words where
  bits := 64
  next s :=
    let (v, s) := s.next64
    (v.toNat, s)
  next_lt s := s.next64.1.toNat_lt

end Words

end Assay.Random
