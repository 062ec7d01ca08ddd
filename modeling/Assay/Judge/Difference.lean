import Assay.Judge.Outcome
import Assay.Text.Abridged
import Assay.Text.Lines
import Assay.Text.Quoted

/-!
Comparing an output with the expected one, character for character, and telling where they first
differ.
-/

namespace Assay.Judge

/-- Where two texts first differ, counting rows from one. -/
inductive Difference where
  | row (number : Nat) (expected found : String)
  | outputEnds (number : Nat) (expected : String)
  | outputGoesOn (number : Nat) (found : String)
  deriving DecidableEq, Repr

def Difference.message : Difference → String
  | .row number expected found =>
    s!"line {number}: expected " ++ Text.quote expected ++ ", found " ++ Text.quote found
  | .outputEnds number expected =>
    s!"line {number}: expected " ++ Text.quote expected ++ ", found end of output"
  | .outputGoesOn number found =>
    s!"line {number}: expected end of output, found " ++ Text.quote found

/-- The first difference of two lists of rows, the first of them being row `number`. -/
def firstDifference (number : Nat) : List String → List String → Option Difference
  | [], [] => none
  | expected :: _, [] => some (.outputEnds number expected)
  | [], found :: _ => some (.outputGoesOn number found)
  | expected :: es, found :: fs =>
    if expected = found then firstDifference (number + 1) es fs
    else some (.row number expected found)

/-- The message on two different texts. -/
def differenceMessage (expected output : String) : String :=
  match firstDifference 1 (Text.rows expected) (Text.rows output) with
  | some difference => Text.abridge difference.message
  | none => "output differs from the expected output"

/-- Judge an output: nothing is trimmed and line ends are not normalised. -/
def compare (output expected : String) : Outcome :=
  if output = expected then .passed else .failed (some (differenceMessage expected output))

end Assay.Judge
