import Assay.Runner.Report

/-!
Jobs in flight. Jobs are started in their order, so many at a time, and end in any order; the
results are handed on in the order of the jobs.
-/

namespace Assay.Judge

open Runner (Report Start)

/-- What can happen next while jobs are in flight. -/
inductive Event where
  /-- The next job is started. -/
  | start
  /-- A job in flight ends; the oldest one is at place zero. -/
  | finish (place : Nat)
  /-- The result of the oldest job is handed on. -/
  | handOn
  deriving DecidableEq, Repr

/-- The order in which things happen. -/
abbrev Schedule := List Event

/-- A job in flight: what it comes to, and whether it has ended. -/
structure Slot (β : Type) where
  result : β
  ended : Bool

/-- All jobs of a request on their way to their results. -/
structure Flight (α β : Type) where
  waiting : List α
  /-- The jobs in flight, the oldest one first. -/
  window : List (Slot β)
  /-- The results so far. -/
  results : List β
  /-- The runs that the jobs have started. -/
  started : List Start

/-- A way to carry out jobs: how many are in flight at most, what a job reports, and which results
end everything. -/
structure Carrier (α β : Type) where
  width : Nat
  carry : α → Report β
  isLast : β → Bool

namespace Flight

variable {α β : Type}

/-- Nothing has happened yet. -/
def ofJobs (jobs : List α) : Flight α β := ⟨jobs, [], [], []⟩

/-- Events that are still to come if no result ends everything: three for a waiting job, two for
one in flight, one for a result that has not been handed on. -/
def remaining (f : Flight α β) : Nat :=
  3 * f.waiting.length + f.window.length + f.window.countP fun s => !s.ended

end Flight

namespace Carrier

variable {α β : Type}

/-- End the job at a place. -/
def finish (window : List (Slot β)) (place : Nat) : List (Slot β) :=
  window.modify place fun s => { s with ended := true }

/-- One event. What cannot happen changes nothing. A job is carried out from its start on. After a
last result nothing is waiting or in flight any more: jobs that have not ended are dropped. -/
def step (c : Carrier α β) (f : Flight α β) : Event → Flight α β
  | .start =>
    match f.waiting with
    | [] => f
    | job :: rest =>
      if f.window.length < c.width then
        let report := c.carry job
        { f with
          waiting := rest
          window := f.window ++ [⟨report.answer, false⟩]
          started := f.started ++ report.started }
      else f
  | .finish place => { f with window := finish f.window place }
  | .handOn =>
    match f.window with
    | ⟨result, true⟩ :: window =>
      if c.isLast result then { f with waiting := [], window := [], results := f.results ++ [result] }
      else { f with window, results := f.results ++ [result] }
    | _ => f

/-- The events of a schedule, one after another. -/
def follow (c : Carrier α β) (f : Flight α β) (schedule : Schedule) : Flight α β :=
  schedule.foldl c.step f

/-- An event that can happen: the window is kept full, and the oldest job ends first. -/
def eager (c : Carrier α β) (f : Flight α β) : Event :=
  if !f.waiting.isEmpty && f.window.length < c.width then .start
  else
    match f.window with
    | ⟨_, true⟩ :: _ => .handOn
    | _ => .finish 0

/-- Eager events. -/
def settle (c : Carrier α β) : Nat → Flight α β → Flight α β
  | 0, f => f
  | events + 1, f => settle c events (c.step f (c.eager f))

/-- Carry out all jobs: a schedule is followed, and what it leaves undone is done eagerly. -/
def run (c : Carrier α β) (schedule : Schedule) (jobs : List α) : Flight α β :=
  let f := c.follow (.ofJobs jobs) schedule
  c.settle f.remaining f

/-- The results of all jobs, up to the first last one, and the runs that were started for them. -/
def report (c : Carrier α β) (schedule : Schedule) (jobs : List α) : Report (List β) :=
  let f := c.run schedule jobs
  ⟨f.results, f.started⟩

end Carrier

end Assay.Judge
