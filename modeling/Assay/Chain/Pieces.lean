import Assay.Text.Blank

/-!
Cutting the source of a chain into its pieces, one for each call.

A point separates two calls where as many parentheses have been opened as closed; a point inside
an argument list, such as the two of a range, separates nothing.
-/

namespace Assay.Chain

/-- Opened minus closed parentheses after one more character. The number is never further from zero
than there are parentheses, so a counter of 32 bits holds it for every text with fewer than `2 ^ 31`
of them. -/
def depthAfter (depth : Int) (c : Char) : Int :=
  if c = '(' then depth + 1 else if c = ')' then depth - 1 else depth

/-- Cut at the separating points. `depth` counts the open parentheses so far and `pending` holds
the characters of the open piece, the last one first. -/
def cutFrom (depth : Int) (pending : List Char) : List Char → List (List Char)
  | [] => [pending.reverse]
  | c :: rest =>
    if c = '.' ∧ depth = 0 then pending.reverse :: cutFrom depth [] rest
    else cutFrom (depthAfter depth c) (c :: pending) rest

/-- The uncut pieces of a source; joined by points they are the source again. -/
def cut (source : List Char) : List (List Char) := cutFrom 0 [] source

/-- Drop the empty pieces at the end. -/
def dropEmptyEnd (pieces : List (List Char)) : List (List Char) :=
  (pieces.reverse.dropWhile List.isEmpty).reverse

/-- The pieces of a source, trimmed, without the empty ones at the end. Empty pieces elsewhere
stay, because they are errors to be reported. -/
def pieces (source : List Char) : List (List Char) := dropEmptyEnd ((cut source).map Text.trim)

/-- The pieces as strings. -/
def split (source : String) : List String := (pieces source.toList).map String.ofList

end Assay.Chain
