import Assay.Runner.Runner

/-!
Reports: what some work comes to, and the runs that were started for it. Starting a run is the only
way to come to its result, and it leaves its start in the report.
-/

namespace Assay.Runner

/-- A run of a program by a runner: of this code, on this input, and watched for so long. -/
structure Start where
  runner : Runner
  watch : Duration
  code : String
  stdin : String

/-- What some work comes to, and the runs that were started for it, in the order of their starts. -/
structure Report (α : Type) where
  answer : α
  started : List Start

namespace Report

variable {α β : Type}

/-- Nothing was started. -/
def idle (answer : α) : Report α := ⟨answer, []⟩

/-- Start a run. -/
def ofStart (s : Start) : Report (Run Success) := ⟨s.runner.run s.watch s.code s.stdin, [s]⟩

def map (f : α → β) (r : Report α) : Report β := ⟨f r.answer, r.started⟩

@[simp] theorem answer_idle (answer : α) : (idle answer).answer = answer := rfl

@[simp] theorem started_idle (answer : α) : (idle answer).started = [] := rfl

@[simp] theorem answer_map (f : α → β) (r : Report α) : (r.map f).answer = f r.answer := rfl

@[simp] theorem started_map (f : α → β) (r : Report α) : (r.map f).started = r.started := rfl

end Report

end Assay.Runner
