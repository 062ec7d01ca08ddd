import Assay.Runner.Registry

/-!
What a start comes to under its watch, and that running a program comes to just that.
-/

namespace Assay.Runner

/-- What a start comes to. A run that ends within its watch is answered by its runner; any other
one is dropped, and answered by the limit that it met. -/
inductive Start.Answers (s : Start) : Except Failure Success → Prop
  | inTime {takes result} (hrun : s.runner.run s.watch s.code s.stdin = .finished takes result)
      (htakes : takes ≤ s.watch) : Answers s result
  | late {takes result} (hrun : s.runner.run s.watch s.code s.stdin = .finished takes result)
      (htakes : ¬ takes ≤ s.watch) : Answers s (.error (.timeout s.watch))
  | unfinished (hrun : s.runner.run s.watch s.code s.stdin = .unfinished) :
      Answers s (.error (.timeout s.watch))

namespace Registry

variable (g : Registry) (r : Runner) (code stdin : String)

/-- Running a program starts one run, of its runner. -/
@[simp] theorem started_run : (g.run r code stdin).started = [g.startOf r code stdin] := rfl

variable {g r code stdin} {result : Except Failure Success}

/-- Running a program comes to what its start comes to. -/
theorem answer_run_iff :
    (g.run r code stdin).answer = result ↔ (g.startOf r code stdin).Answers result := by
  change (r.run (g.limitOf r) code stdin).within (g.limitOf r) = result ↔ _
  constructor
  · intro h
    cases hrun : r.run (g.limitOf r) code stdin with
    | unfinished =>
      rw [hrun] at h
      rw [← h]
      exact .unfinished hrun
    | finished takes result' =>
      rw [hrun, Run.within] at h
      by_cases htakes : takes ≤ g.limitOf r
      · rw [if_pos htakes] at h
        rw [← h]
        exact .inTime hrun htakes
      · rw [if_neg htakes] at h
        rw [← h]
        exact .late hrun htakes
  · intro h
    cases h with
    | inTime hrun htakes =>
      change r.run (g.limitOf r) code stdin = _ at hrun
      rw [hrun]
      exact if_pos htakes
    | late hrun htakes =>
      change r.run (g.limitOf r) code stdin = _ at hrun
      rw [hrun]
      exact if_neg htakes
    | unfinished hrun =>
      change r.run (g.limitOf r) code stdin = _ at hrun
      rw [hrun]
      rfl

/-- A start comes to exactly one thing. -/
theorem answers_answer_run : (g.startOf r code stdin).Answers (g.run r code stdin).answer :=
  answer_run_iff.mp rfl

end Registry

end Assay.Runner
