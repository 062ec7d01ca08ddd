/-!
Outputs within limits. The first bytes are kept; the others are read all the same, so that the
writer never waits, and are dropped.
-/

namespace Assay.Runner

/-- What is kept of an output, and whether something of it was dropped. -/
structure Capture where
  kept : List UInt8
  truncated : Bool
  deriving DecidableEq, Repr

namespace Capture

/-- Read until there are `limit` bytes, or nothing comes any more. What was read, and what is left
of an output that comes in pieces. -/
def readUpTo (limit : Nat) : List (List UInt8) → List UInt8 × List (List UInt8)
  | [] => ([], [])
  | piece :: rest =>
    if piece.length ≤ limit then
      let (more, left) := readUpTo (limit - piece.length) rest
      (piece ++ more, left)
    else (piece.take limit, piece.drop limit :: rest)

/-- Read what is left, however much it is. The number of bytes. -/
def drain (pieces : List (List UInt8)) : Nat := pieces.foldl (fun sum piece => sum + piece.length) 0

/-- Keep at most `limit` bytes. -/
def collect (limit : Nat) (pieces : List (List UInt8)) : Capture :=
  let (kept, left) := readUpTo limit pieces
  ⟨kept, 0 < drain left⟩

end Capture

end Assay.Runner
