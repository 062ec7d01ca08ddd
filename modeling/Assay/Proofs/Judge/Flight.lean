import Assay.Judge.Flight
import Mathlib.Data.List.Basic

/-!
Whatever the schedule, the results of jobs in flight are those of carrying the jobs out one after
another. One invariant says how far a flight has come; every event keeps it, and eager events
lead to the end.
-/

namespace Assay.Judge

open Runner (Start)

variable {α β : Type}

/-- The results up to the first last one, and that one itself. -/
def untilLast (isLast : β → Bool) : List β → List β
  | [] => []
  | b :: bs => if isLast b then [b] else b :: untilLast isLast bs

/-- Behind a last result nothing counts. -/
theorem untilLast_append_of_isLast {isLast : β → Bool} {b : β} (hb : isLast b = true)
    (bs cs : List β) : untilLast isLast (bs ++ [b] ++ cs) = untilLast isLast (bs ++ [b]) := by
  induction bs with
  | nil => simp [untilLast, hb]
  | cons b' bs ih => simp only [List.cons_append, untilLast, ih]

theorem untilLast_never (bs : List β) : untilLast (fun _ => false) bs = bs := by
  induction bs with
  | nil => rfl
  | cons b bs ih => simp [untilLast, ih]

namespace Flight

/-- What will have been handed on if no result ends everything. -/
def outlook (c : Carrier α β) (f : Flight α β) : List β :=
  f.results ++ (f.window.map Slot.result ++ f.waiting.map fun job => (c.carry job).answer)

theorem eq_nil_of_remaining {f : Flight α β} (h : f.remaining = 0) :
    f.waiting = [] ∧ f.window = [] := by
  simp only [remaining] at h
  exact ⟨List.eq_nil_of_length_eq_zero (by omega), List.eq_nil_of_length_eq_zero (by omega)⟩

end Flight

namespace Carrier

open Flight

variable (c : Carrier α β)

/-- How far a flight over some jobs has come: no more jobs are in flight than may be, and the
outlook is as it was at the start. -/
structure Underway (jobs : List α) (f : Flight α β) : Prop where
  narrow : f.window.length ≤ c.width
  outlook : untilLast c.isLast (f.outlook c) =
    untilLast c.isLast (jobs.map fun job => (c.carry job).answer)

variable {c} {jobs : List α}

theorem underway_ofJobs : c.Underway jobs (.ofJobs jobs) where
  narrow := Nat.zero_le _
  outlook := by simp [Flight.outlook, ofJobs]

theorem map_result_finish (window : List (Slot β)) (place : Nat) :
    (finish window place).map Slot.result = window.map Slot.result := by
  apply List.ext_getElem
  · simp [finish]
  · intro i h₁ h₂
    by_cases hi : place = i <;> simp [finish, hi]

/-- Starting and ending move a job within the outlook; handing on moves its result to the front. -/
theorem underway_step {f : Flight α β} (h : c.Underway jobs f) (e : Event) :
    c.Underway jobs (c.step f e) := by
  obtain ⟨narrow, outlook⟩ := h
  obtain ⟨waiting, window, results, started⟩ := f
  cases e with
  | start =>
    cases waiting with
    | nil => exact ⟨narrow, outlook⟩
    | cons job waiting =>
      by_cases hroom : window.length < c.width
      · simp only [step, hroom, if_true]
        refine ⟨?_, ?_⟩
        · rw [List.length_append]
          exact hroom
        · simpa [Flight.outlook] using outlook
      · simpa only [step, hroom, if_false] using Underway.mk narrow outlook
  | finish place =>
    refine ⟨?_, ?_⟩
    · simpa [step, finish] using narrow
    · simpa only [step, Flight.outlook, map_result_finish] using outlook
  | handOn =>
    cases window with
    | nil => exact ⟨narrow, outlook⟩
    | cons s window =>
      obtain ⟨b, _ | _⟩ := s
      · exact ⟨narrow, outlook⟩
      · cases hlast : c.isLast b with
        | true =>
          simp only [step, hlast, if_true]
          refine ⟨Nat.zero_le _, ?_⟩
          rw [← outlook]
          simp only [Flight.outlook, List.map_nil, List.append_nil, List.map_cons,
            List.cons_append]
          rw [← untilLast_append_of_isLast hlast results, List.append_assoc, List.singleton_append]
        | false =>
          simp only [step, hlast, Bool.false_eq_true, if_false]
          refine ⟨Nat.le_of_succ_le narrow, ?_⟩
          rw [← outlook]
          simp [Flight.outlook]

/-- What holds before anything happens and is kept by every event holds after a run. -/
theorem run_invariant {P : Flight α β → Prop} (hstart : P (.ofJobs jobs))
    (hstep : ∀ f e, P f → P (c.step f e)) (schedule : Schedule) : P (c.run schedule jobs) := by
  have hfollow : ∀ f, P f → P (c.follow f schedule) := by
    induction schedule with
    | nil => exact fun f hf => hf
    | cons e schedule ih =>
      intro f hf
      exact ih (c.step f e) (hstep f e hf)
  have hsettle : ∀ events f, P f → P (c.settle events f) := by
    intro events
    induction events with
    | zero => exact fun f hf => hf
    | succ events ih =>
      intro f hf
      exact ih (c.step f (c.eager f)) (hstep f (c.eager f) hf)
  exact hsettle _ _ (hfollow _ hstart)

theorem underway_run (schedule : Schedule) : c.Underway jobs (c.run schedule jobs) :=
  run_invariant underway_ofJobs (fun _ e hf => underway_step hf e) schedule

/-- An eager event is never lost. -/
theorem remaining_step_eager {f : Flight α β} (hw : 0 < c.width) (h : 0 < f.remaining) :
    (c.step f (c.eager f)).remaining < f.remaining := by
  obtain ⟨waiting, window, results, started⟩ := f
  by_cases hstart : (!waiting.isEmpty && decide (window.length < c.width)) = true
  · obtain ⟨hne, hroom⟩ := by simpa using hstart
    cases waiting with
    | nil => exact absurd rfl hne
    | cons job waiting =>
      simp only [eager, List.isEmpty_cons, Bool.not_false, hroom, decide_true, Bool.and_self,
        if_true, step, remaining, List.length_cons, List.length_append, List.length_nil,
        List.countP_append, List.countP_singleton]
      omega
  · simp only [eager, hstart]
    cases window with
    | nil =>
      have hnil : waiting = [] := by
        by_contra hne
        exact hstart (by simpa [hne] using hw)
      simp [remaining, hnil] at h
    | cons s window =>
      obtain ⟨b, _ | _⟩ := s
      · simp only [Bool.false_eq_true, if_false, step, finish, remaining, List.modify_zero_cons,
          List.length_cons, List.countP_cons, Bool.not_false, Bool.not_true, if_true]
        omega
      · simp only [Bool.false_eq_true, if_false, step]
        split
        · simp only [remaining, List.length_nil, List.countP_nil, List.length_cons]
          omega
        · simp only [remaining, List.length_cons, List.countP_cons, Bool.not_true,
            Bool.false_eq_true, if_false]
          omega

theorem remaining_settle {f : Flight α β} (hw : 0 < c.width) {events : Nat}
    (h : f.remaining ≤ events) : (c.settle events f).remaining = 0 := by
  induction events generalizing f with
  | zero => exact Nat.le_zero.mp h
  | succ events ih =>
    apply ih
    rcases Nat.eq_zero_or_pos f.remaining with h0 | hpos
    · obtain ⟨waiting, window, results, started⟩ := f
      obtain ⟨rfl, rfl⟩ := eq_nil_of_remaining h0
      simp [eager, step, finish, remaining]
    · have hless := remaining_step_eager hw hpos
      omega

/-- Nothing remains after a run. -/
theorem remaining_run (hw : 0 < c.width) (schedule : Schedule) (jobs : List α) :
    (c.run schedule jobs).remaining = 0 :=
  remaining_settle hw (Nat.le_refl _)

/-- The results of a run do not depend on the schedule. -/
theorem untilLast_results_run (hw : 0 < c.width) (schedule : Schedule) (jobs : List α) :
    untilLast c.isLast (c.run schedule jobs).results =
      untilLast c.isLast (jobs.map fun job => (c.carry job).answer) := by
  have hrun : c.Underway jobs (c.run schedule jobs) := underway_run schedule
  obtain ⟨hwaiting, hwindow⟩ := eq_nil_of_remaining (remaining_run hw schedule jobs)
  have houtlook := hrun.outlook
  rwa [Flight.outlook, hwaiting, hwindow, List.map_nil, List.map_nil, List.append_nil,
    List.append_nil] at houtlook

/-- Where no result ends everything, each job has its result, in the order of the jobs. -/
theorem results_run_of_never (hw : 0 < c.width) (hnever : c.isLast = fun _ => false)
    (schedule : Schedule) (jobs : List α) :
    (c.run schedule jobs).results = jobs.map fun job => (c.carry job).answer := by
  have h := untilLast_results_run hw schedule jobs
  rwa [hnever, untilLast_never, untilLast_never] at h

/-- What was started are the runs of the first jobs, each carried out once. The other jobs are
waiting, unless a last result has ended everything. -/
def Accounted (c : Carrier α β) (jobs : List α) (f : Flight α β) : Prop :=
  ∃ before, f.started = before.flatMap (fun job => (c.carry job).started) ∧
    (before ++ f.waiting = jobs ∨
      (before <+: jobs ∧ f.waiting = [] ∧ ∃ b ∈ f.results, c.isLast b = true))

theorem accounted_ofJobs : c.Accounted jobs (.ofJobs jobs) := ⟨[], rfl, .inl rfl⟩

/-- A start carries out the first of the waiting jobs; only a last result takes waiting jobs
away. -/
theorem accounted_step {f : Flight α β} (h : c.Accounted jobs f) (e : Event) :
    c.Accounted jobs (c.step f e) := by
  obtain ⟨waiting, window, results, started⟩ := f
  cases e with
  | start =>
    cases waiting with
    | nil => exact h
    | cons job waiting =>
      by_cases hroom : window.length < c.width
      · simp only [step, hroom, if_true]
        obtain ⟨before, hstarted, hjobs | ⟨-, hnil, -⟩⟩ := h
        · refine ⟨before ++ [job], ?_, .inl ?_⟩
          · rw [List.flatMap_append, List.flatMap_singleton, ← hstarted]
          · rw [← hjobs, List.append_assoc]
            rfl
        · cases hnil
      · simpa only [step, hroom, if_false] using h
  | finish place => exact h
  | handOn =>
    cases window with
    | nil => exact h
    | cons s window =>
      obtain ⟨b, _ | _⟩ := s
      · exact h
      · obtain ⟨before, hstarted, hrest⟩ := h
        cases hlast : c.isLast b with
        | true =>
          simp only [step, hlast, if_true]
          refine ⟨before, hstarted, .inr ⟨?_, rfl, b, by simp, hlast⟩⟩
          rcases hrest with rfl | ⟨hbefore, -⟩
          · exact List.prefix_append _ _
          · exact hbefore
        | false =>
          simp only [step, hlast, Bool.false_eq_true, if_false]
          refine ⟨before, hstarted, hrest.imp_right ?_⟩
          rintro ⟨hbefore, hnil, b', hb', hlast'⟩
          exact ⟨hbefore, hnil, b', List.mem_append_left _ hb', hlast'⟩

variable (c jobs) in
theorem accounted_run (schedule : Schedule) : c.Accounted jobs (c.run schedule jobs) :=
  run_invariant accounted_ofJobs (fun _ e hf => accounted_step hf e) schedule

/-- Whatever was started was started for one of the jobs. -/
theorem mem_started_run {schedule : Schedule} {start : Start}
    (h : start ∈ (c.run schedule jobs).started) : ∃ job ∈ jobs, start ∈ (c.carry job).started := by
  obtain ⟨before, hstarted, hrest⟩ := accounted_run c jobs schedule
  have hbefore : before <+: jobs := by
    rcases hrest with hjobs | ⟨hbefore, -⟩
    · exact ⟨_, hjobs⟩
    · exact hbefore
  rw [hstarted] at h
  obtain ⟨job, hjob, hstart⟩ := List.mem_flatMap.mp h
  exact ⟨job, hbefore.subset hjob, hstart⟩

/-- If no result ended everything, each job was carried out exactly once, in the order of the
jobs. -/
theorem started_run (hw : 0 < c.width) (schedule : Schedule)
    (hnever : ∀ b ∈ (c.run schedule jobs).results, c.isLast b = false) :
    (c.run schedule jobs).started = jobs.flatMap fun job => (c.carry job).started := by
  obtain ⟨before, hstarted, hjobs | ⟨-, -, b, hb, hlast⟩⟩ :=
    accounted_run c jobs schedule
  · rw [(eq_nil_of_remaining (remaining_run hw schedule jobs)).1, List.append_nil] at hjobs
    rw [hstarted, hjobs]
  · rw [hnever b hb] at hlast
    cases hlast

end Carrier

end Assay.Judge
