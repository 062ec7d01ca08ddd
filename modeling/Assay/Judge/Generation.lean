import Assay.Draw.Vocabulary
import Assay.Judge.Flight
import Assay.Judge.Report

/-!
Generating tests: inputs drawn from a chain, and the outputs of a reference program on them.
-/

namespace Assay.Judge

open Draw (Vocabulary)
open Runner (Failure Registry Report)

/-- An input and what the reference program wrote for it. -/
structure GeneratedCase where
  input : String
  output : String
  deriving DecidableEq, Repr

/-- A count of tests within `1, …, limit`. -/
def checkCount (count : Int) (limit : Nat) : Except Violation Nat :=
  if count ≤ 0 then .error (.countNotPositive count)
  else if limit < count.toNat then .error (.countTooLarge limit count.toNat)
  else .ok count.toNat

/-- Run the reference program on one input. -/
def runReference (g : Registry) (r : Runner.Runner) (code input : String) :
    Report (Except Failure GeneratedCase) :=
  (g.run r code input).map (Except.map fun success => ⟨input, success.stdout⟩)

def isFailed : Except Failure GeneratedCase → Bool
  | .error _ => true
  | .ok _ => false

/-- Running the reference program on all inputs; a run that fails ends everything. -/
def generating (g : Registry) (r : Runner.Runner) (code : String) (concurrency : Nat) :
    Carrier String (Except Failure GeneratedCase) where
  width := max concurrency 1
  carry := runReference g r code
  isLast := isFailed

/-- All cases, or the first failure. -/
def collect : List (Except Failure GeneratedCase) → Except Failure (List GeneratedCase)
  | [] => .ok []
  | .error failure :: _ => .error failure
  | .ok c :: rest => (collect rest).map (c :: ·)

/-- Generate `count` tests, at most `concurrency` runs at a time. The count, the language and the
chain are checked, and all inputs are drawn, before anything runs; a run that fails leaves no
partial result. -/
def generate (g : Registry) (v : Vocabulary) (language : Language) (code source : String)
    (count : Int) (seed : UInt64) (limit : Nat) (concurrency : Nat := 4)
    (schedule : Schedule := []) : Report (Except Error (List GeneratedCase)) :=
  match checkCount count limit with
  | .error violation => refuse (.violation violation)
  | .ok count =>
    match g.find? language with
    | none => refuse (.unsupported language)
    | some r =>
      match v.sample source count seed with
      | .error halt => refuse (.ofHalt halt)
      | .ok inputs =>
        ((generating g r code concurrency).report schedule inputs).map fun results =>
          (collect results).mapError .failure

end Assay.Judge
