import Assay.Service.Handling

/-!
Where a reply comes from: a body that cannot be read, or the report of a job.
-/

namespace Assay.Service.Reply

open Runner (Report)

variable {α β : Type}

/-- A reply that succeeds answers for a job that succeeded. -/
theorem answer_ofReport_eq_ok {respond : α → Response}
    {report : Report (Except Error α)} {response : Response} (h : (ofReport respond report).answer = .ok response) :
    ∃ a, report.answer = .ok a ∧ respond a = response := by
  rw [ofReport, Report.answer_map] at h
  cases ha : report.answer with
  | error e =>
    rw [ha] at h
    cases h
  | ok a =>
    rw [ha] at h
    exact ⟨a, rfl, Except.ok.inj h⟩

/-- A reply that fails answers for a job that failed. -/
theorem answer_ofReport_eq_error {respond : α → Response}
    {report : Report (Except Error α)} {error : RequestError} (h : (ofReport respond report).answer = .error error) :
    ∃ e, report.answer = .error e ∧ .judge e = error := by
  rw [ofReport, Report.answer_map] at h
  cases ha : report.answer with
  | error e =>
    rw [ha] at h
    exact ⟨e, rfl, Except.error.inj h⟩
  | ok a =>
    rw [ha] at h
    cases h

theorem ofBody_cases (reader : Json.Reader β) (body : String) (answer : β → Reply) :
    (∃ problem, reader.run body = .error problem ∧
        ofBody reader body answer = .idle (.error (.unreadable problem))) ∨
      ∃ request, reader.run body = .ok request ∧ ofBody reader body answer = answer request := by
  unfold ofBody
  cases hread : reader.run body with
  | error problem => exact .inl ⟨problem, rfl, rfl⟩
  | ok request => exact .inr ⟨request, rfl, rfl⟩

end Assay.Service.Reply
