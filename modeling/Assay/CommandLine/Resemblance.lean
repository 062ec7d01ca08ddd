import Assay.Number.Binary64

/-!
How much two words resemble each other: the share of characters that they have in common in about
the same places, raised for a common beginning.
-/

namespace Assay.CommandLine

open Number (Binary64)

/-- Characters of one word that were found in another. -/
structure Matching where
  /-- Places of the other word that are taken. -/
  taken : List Nat
  /-- Characters found at a place before the one found last. -/
  crossed : Nat
  /-- The place that was found last. -/
  last : Nat

/-- Look for one more character, at the free places of `word` from `low` to `high`. -/
def Matching.find (m : Matching) (word : List Char) (low high : Nat) (c : Char) : Matching :=
  let place := (List.range word.length).find? fun j =>
    decide (low ≤ j ∧ j ≤ high) && word[j]? == some c && !m.taken.contains j
  match place with
  | none => m
  | some j => ⟨j :: m.taken, m.crossed + (if j < m.last then 1 else 0), j⟩

/-- Match the characters of `a`, each within `distance` places of its own. -/
def matching (a b : List Char) (distance : Nat) : Matching :=
  a.zipIdx.foldl (fun m (c, i) => m.find b (i - distance) (i + distance) c) ⟨[], 0, 0⟩

/-- The resemblance without the common beginning. -/
def baseResemblance (a b : List Char) : Binary64 :=
  if a.isEmpty && b.isEmpty then 1
  else if a.isEmpty || b.isEmpty then 0
  else if a.length = 1 && b.length = 1 then (if a = b then 1 else 0)
  else
    let m := matching a b (max a.length b.length / 2 - 1)
    if m.taken.isEmpty then 0
    else
      let found := Binary64.ofNat m.taken.length
      let crossed := Binary64.ofNat m.crossed
      (1 / 3) * (found / Binary64.ofNat a.length + found / Binary64.ofNat b.length +
        (found - crossed) / found)

/-- The length of the common beginning. -/
def commonBeginning : List Char → List Char → Nat
  | a :: as, b :: bs => if a = b then commonBeginning as bs + 1 else 0
  | _, _ => 0

/-- The resemblance of two words, from zero to one. -/
def resemblance (a b : List Char) : Binary64 :=
  let base := baseResemblance a b
  base + Binary64.ofDecimal false 1 (-1) * Binary64.ofNat (commonBeginning a b) * (1 - base)

/-- Whether one word is probably a slip for the other. -/
def resembles (a b : String) : Bool :=
  (Binary64.ofDecimal false 8 (-1)).lt (resemblance a.toList b.toList)

end Assay.CommandLine
