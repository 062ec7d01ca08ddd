import Assay.Runner.Report

/-!
A registry finds the runner of a language and bounds the time of its runs.
-/

namespace Assay.Runner

/-- Runners by key, each key at most once, and the time limit of runners without their own. -/
structure Registry where
  entries : List (String × Runner)
  timeLimit : Duration

namespace Registry

def empty (timeLimit : Duration) : Registry := ⟨[], timeLimit⟩

/-- File a runner under its key, in the place of the one that was there. -/
def register (g : Registry) (r : Runner) : Registry :=
  { g with entries := (r.key, r) :: g.entries.filter fun e => e.1 != r.key }

/-- The registered keys in increasing order. -/
def languages (g : Registry) : List String :=
  (g.entries.map Prod.fst).mergeSort fun a b => !decide (b < a)

/-- The runner of a language. The version that is asked for does not matter. -/
def find? (g : Registry) (l : Language) : Option Runner := g.entries.lookup l.key

/-- The limit that a run of `r` is held to. -/
def limitOf (g : Registry) (r : Runner) : Duration := r.timeLimit.getD g.timeLimit

/-- The run of a program by `r`. -/
def startOf (g : Registry) (r : Runner) (code stdin : String) : Start :=
  ⟨r, g.limitOf r, code, stdin⟩

/-- Run a program. A run that has not ended at the limit is dropped. -/
def run (g : Registry) (r : Runner) (code stdin : String) : Report (Except Failure Success) :=
  (Report.ofStart (g.startOf r code stdin)).map (Run.within (g.limitOf r))

end Registry

end Assay.Runner
