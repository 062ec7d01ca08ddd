import Assay.Proofs.Runner.Capture
import Assay.Proofs.Runner.Start
import Assay.Runner.CommandRunner

/-!
An execution in two steps: what happens up to the end of the program, and what is made of that.
-/

namespace Assay.Runner

namespace Run

variable {α β γ : Type}

/-- A run that succeeds with what `f` makes of its value, or fails as `f` says. -/
def settle (r : Run α) (f : α → Except Failure β) : Run β :=
  match r with
  | .unfinished => .unfinished
  | .finished takes (.error failure) => .finished takes (.error failure)
  | .finished takes (.ok value) => .finished takes (f value)

theorem andThen_immediate (r : Run α) (watch : Duration) (f : α → Except Failure β) :
    (r.andThen watch fun value _ => immediate (f value)) = r.settle f := by
  match r with
  | .unfinished => rfl
  | .finished _ (.error _) => rfl
  | .finished _ (.ok _) => rfl

theorem settle_andThen (r : Run α) (watch : Duration) (next : α → Duration → Run β)
    (f : β → Except Failure γ) :
    (r.andThen watch next).settle f =
      r.andThen watch fun value left => (next value left).settle f := by
  match r with
  | .unfinished => rfl
  | .finished _ (.error _) => rfl
  | .finished takes (.ok value) =>
    rw [andThen, andThen]
    match next value (watch - takes) with
    | .unfinished => rfl
    | .finished _ (.error _) => rfl
    | .finished _ (.ok _) => rfl

end Run

namespace CommandRunner

variable (r : CommandRunner) (host : Host) (watch : Duration) (code stdin : String)

/-- Compile and run code up to the end of the program. -/
def toEnd : Run Finished :=
  let directory := r.workDirectory host
  (Run.finished preparationTime (r.prepare host code)).andThen watch fun files watch =>
    (r.compile host directory files watch).andThen watch fun files watch =>
      let input := Text.Utf8.encode (StdinCursor.ofString stdin).feed
      r.start host directory r.language.runCommand (some input) files watch

theorem execute_eq :
    r.execute host watch code stdin = (r.toEnd host watch code stdin).settle (outcome r.judge) := by
  simp only [execute, runProgram, Run.andThen_immediate, toEnd, Run.settle_andThen]

end CommandRunner

/-- The code that a process ended with, if it was not ended by a signal. -/
def Ending.code? : Ending → Option Int
  | .exited code => some code
  | .killed => none

variable {g : Registry} {r : CommandRunner} {host : Host} {code stdin : String}
  {takes : Duration} {finished : Finished}

/-- What a run comes to whose program ends in time. -/
theorem Registry.run_of_toEnd
    (hend : r.toEnd host (g.limitOf (r.toRunner host)) code stdin = .finished takes (.ok finished))
    (htakes : takes ≤ g.limitOf (r.toRunner host)) :
    (g.run (r.toRunner host) code stdin).answer = CommandRunner.outcome r.judge finished := by
  have hrun : (r.toRunner host).run (g.limitOf (r.toRunner host)) code stdin =
      .finished takes (CommandRunner.outcome r.judge finished) := by
    change r.execute host _ code stdin = _
    rw [r.execute_eq, hend]
    rfl
  exact Registry.answer_run_iff.mpr (.inTime hrun htakes)

namespace CommandRunner

theorem textOf_eq (limit : Nat) (bytes : List UInt8) :
    textOf limit bytes = Text.Utf8.decode (bytes.take limit) := by
  rw [textOf, Capture.collect_singleton]

theorem outcome_of_too_long {judge : Settings.JudgeSettings}
    (hstdout : judge.stdoutLimit < finished.stdout.length) :
    outcome judge finished = .error (.outputLimit judge.stdoutLimit) := by
  rw [outcome, Capture.collect_singleton]
  exact if_pos (decide_eq_true hstdout)

/-- An output within its limit is kept as it is. -/
theorem outcome_of_fits {judge : Settings.JudgeSettings}
    (hstdout : finished.stdout.length ≤ judge.stdoutLimit) :
    outcome judge finished = match finished.ending with
      | .exited 0 =>
        .ok ⟨Text.Utf8.decode finished.stdout, textOf judge.stderrLimit finished.stderr, some 0⟩
      | ending => .error (.runtime ending.code?
          (Text.abridge (textOf judge.stderrLimit finished.stderr))) := by
  rw [outcome, Capture.collect_singleton, List.take_of_length_le hstdout]
  refine (if_neg (by simpa using hstdout)).trans ?_
  match finished.ending with
  | .exited 0 => rfl
  | .exited (code + 1) => rfl
  | .killed => rfl

theorem outcome_of_failure {judge : Settings.JudgeSettings}
    (hexit : finished.ending ≠ .exited 0) (hstdout : finished.stdout.length ≤ judge.stdoutLimit) :
    outcome judge finished = .error (.runtime finished.ending.code?
      (Text.abridge (textOf judge.stderrLimit finished.stderr))) := by
  rw [outcome_of_fits hstdout]
  split
  next h => exact absurd h hexit
  next => rfl

theorem outcome_of_success {judge : Settings.JudgeSettings}
    (hexit : finished.ending = .exited 0) (hstdout : finished.stdout.length ≤ judge.stdoutLimit) :
    outcome judge finished =
      .ok ⟨Text.Utf8.decode finished.stdout, textOf judge.stderrLimit finished.stderr, some 0⟩ := by
  rw [outcome_of_fits hstdout, hexit]
  rfl

end CommandRunner

end Assay.Runner
