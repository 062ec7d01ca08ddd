import Assay.Proofs.Judge.Generation
import Assay.Proofs.Judge.Submission

/-!
What a job starts: nothing at all if it ends with an error other than the failure of a run, and
otherwise only runs of the one runner that its language stands for.
-/

namespace Assay.Judge

open Draw (Vocabulary)
open Runner (Failure Registry Report)

variable {ε α β : Type}

/-- Every error but the failure of a run is found before anything is started. -/
def ChecksFirst (kind : ε → String) (report : Report (Except ε α)) : Prop :=
  ∀ error, report.answer = .error error → kind error ≠ "execution_error" → report.started = []

theorem checksFirst_of_started {kind : ε → String} {report : Report (Except ε α)}
    (h : report.started = []) : ChecksFirst kind report :=
  fun _ _ _ => h

theorem checksFirst_refuse (error : Error) :
    ChecksFirst Error.kind (refuse error : Report (Except Error α)) :=
  checksFirst_of_started rfl

/-- Where only runs are left to fail, every error is the failure of a run. -/
theorem checksFirst_failure (report : Report β) (f : β → Except Failure α) :
    ChecksFirst Error.kind (report.map fun result => (f result).mapError .failure) := by
  intro error herror hkind
  rw [Report.answer_map] at herror
  cases hresult : f report.answer with
  | ok a =>
    rw [hresult] at herror
    cases herror
  | error failure =>
    rw [hresult] at herror
    cases herror
    exact absurd rfl hkind

/-- Everything that is started is a run of `code` by the runner of `language`. -/
def StartsOnly (report : Report α) (g : Registry) (language : Language) (code : String) : Prop :=
  ∀ start ∈ report.started,
    ∃ r, g.find? language = some r ∧ start = g.startOf r code start.stdin

theorem startsOnly_refuse (error : Error) (g : Registry) (language : Language) (code : String) :
    StartsOnly (refuse error : Report (Except Error α)) g language code := by
  intro start hstart
  cases hstart

/-- One run for each job is what each of the jobs starts. -/
theorem startsOnly_report {g : Registry} {language : Language} {r : Runner.Runner}
    (hfind : g.find? language = some r) {code : String} {c : Carrier α β} (input : α → String)
    (hcarry : ∀ job, (c.carry job).started = [g.startOf r code (input job)])
    (schedule : Schedule) (jobs : List α) :
    StartsOnly (c.report schedule jobs) g language code := by
  intro start hstart
  obtain ⟨job, -, hjob⟩ := Carrier.mem_started_run hstart
  rw [hcarry, List.mem_singleton] at hjob
  rw [hjob]
  exact ⟨r, hfind, rfl⟩

variable (g : Registry) (language : Language) (code : String)

theorem execute_checks (stdin : String) :
    ChecksFirst Error.kind (execute g language code stdin) ∧
      StartsOnly (execute g language code stdin) g language code := by
  cases hfind : g.find? language with
  | none =>
    rw [execute, hfind]
    exact ⟨checksFirst_refuse _, startsOnly_refuse _ _ _ _⟩
  | some r =>
    rw [execute, hfind]
    refine ⟨checksFirst_failure _ id, ?_⟩
    intro start hstart
    rw [Report.started_map, Registry.started_run, List.mem_singleton] at hstart
    rw [hstart]
    exact ⟨r, hfind, rfl⟩

theorem aggregate_checks (tests : List TestCase) (concurrency : Nat) (schedule : Schedule) :
    ChecksFirst Error.kind (aggregate g language code tests concurrency schedule) ∧
      StartsOnly (aggregate g language code tests concurrency schedule) g language code := by
  unfold aggregate
  split
  · exact ⟨checksFirst_refuse _, startsOnly_refuse _ _ _ _⟩
  · split
    · exact ⟨checksFirst_refuse _, startsOnly_refuse _ _ _ _⟩
    · next r hfind =>
      exact ⟨fun _ herror => (nomatch herror),
        startsOnly_report hfind TestCase.input (fun _ => rfl) schedule tests⟩

theorem generate_checks (v : Vocabulary) (source : String) (count : Int) (seed : UInt64)
    (limit concurrency : Nat) (schedule : Schedule) :
    ChecksFirst Error.kind
        (generate g v language code source count seed limit concurrency schedule) ∧
      StartsOnly (generate g v language code source count seed limit concurrency schedule)
        g language code := by
  unfold generate
  split
  · exact ⟨checksFirst_refuse _, startsOnly_refuse _ _ _ _⟩
  · split
    · exact ⟨checksFirst_refuse _, startsOnly_refuse _ _ _ _⟩
    · next r hfind =>
      split
      · exact ⟨checksFirst_refuse _, startsOnly_refuse _ _ _ _⟩
      · next inputs _ =>
        exact ⟨checksFirst_failure _ collect,
          startsOnly_report hfind id (fun _ => rfl) schedule inputs⟩

end Assay.Judge
