import Assay.Proofs.Judge.Submission
import Mathlib.Order.MinMax

/-!
Verdicts in order, from the best to the worst. The verdict on a submission is the worst of the
verdicts on its records, so it depends only on which records there are, and joining two lists of
records joins their verdicts.
-/

namespace Assay.Judge

open Runner (Failure)

namespace Verdict

/-- How bad a verdict is. -/
def rank : Verdict → Nat
  | .accepted => 0
  | .wrongAnswer => 1
  | .runtimeError => 2
  | .compileError => 3

theorem rank_injective : Function.Injective rank := by
  intro v w h
  cases v <;> cases w <;> first | rfl | cases h

instance : LinearOrder Verdict := LinearOrder.lift' rank rank_injective

theorem accepted_le (v : Verdict) : .accepted ≤ v := Nat.zero_le v.rank

theorem le_compileError (v : Verdict) : v ≤ .compileError := by
  cases v <;> decide

end Verdict

/-- The verdict on a single record. -/
def Record.verdict : Record → Verdict
  | .ok .passed => .accepted
  | .ok (.failed _) => .wrongAnswer
  | .error (.compile _) => .compileError
  | .error _ => .runtimeError

theorem Record.verdict_error_le {failure : Failure} (h : ¬failure.isCompile) :
    Record.verdict (.error failure) ≤ .runtimeError := by
  cases failure with
  | compile message => exact absurd rfl h
  | runtime | timeout | outputLimit | sandbox => exact le_refl Verdict.runtimeError

theorem Record.verdict_of_isCompile {failure : Failure} (h : failure.isCompile) :
    Record.verdict (.error failure) = .compileError := by
  cases failure with
  | compile message => rfl
  | runtime | timeout | outputLimit | sandbox => cases h

theorem Record.runtimeError_le (failure : Failure) :
    .runtimeError ≤ Record.verdict (.error failure) := by
  cases failure with
  | compile message => exact (by decide : Verdict.runtimeError ≤ .compileError)
  | runtime | timeout | outputLimit | sandbox => exact le_refl Verdict.runtimeError

/-- `v` is no better than any verdict on the records, and it is one of them or the best there is. -/
structure Worst (records : List Record) (v : Verdict) : Prop where
  bound : ∀ record ∈ records, record.verdict ≤ v
  attained : v = .accepted ∨ ∃ record ∈ records, v ≤ record.verdict

theorem Worst.le_iff {records : List Record} {v w : Verdict} (h : Worst records v) :
    v ≤ w ↔ ∀ record ∈ records, record.verdict ≤ w := by
  constructor
  · intro hle record hrecord
    exact (h.bound record hrecord).trans hle
  · intro hall
    rcases h.attained with rfl | ⟨record, hrecord, hle⟩
    · exact w.accepted_le
    · exact hle.trans (hall record hrecord)

/-- Each of the four questions that decide the verdict asks for records of one rank. -/
theorem worst_reduce (records : List Record) : Worst records (reduce records) := by
  rcases reduce_cases records with
    ⟨⟨failure, hmem, hcompile⟩, hverdict⟩ | ⟨hnone, ⟨failure, hmem⟩, hverdict⟩ |
      ⟨-, hall, hverdict⟩ | ⟨hnone, hsome, hverdict⟩
  · rw [hverdict]
    have hle : .compileError ≤ Record.verdict (.error failure) :=
      (Record.verdict_of_isCompile hcompile).ge
    exact ⟨fun record _ => record.verdict.le_compileError, .inr ⟨_, hmem, hle⟩⟩
  · rw [hverdict]
    refine ⟨?_, .inr ⟨_, hmem, Record.runtimeError_le failure⟩⟩
    rintro (other | _ | message) hrecord
    · exact Record.verdict_error_le fun hcompile => hnone ⟨other, hrecord, hcompile⟩
    · decide
    · exact (by decide : Verdict.wrongAnswer ≤ .runtimeError)
  · rw [hverdict]
    refine ⟨?_, .inl rfl⟩
    intro record hrecord
    rw [hall record hrecord]
    exact le_refl Verdict.accepted
  · rw [hverdict]
    push Not at hsome
    obtain ⟨record, hrecord, hfailed⟩ := hsome
    constructor
    · rintro (other | _ | message) hrecord
      · exact absurd ⟨other, hrecord⟩ hnone
      · decide
      · exact le_refl Verdict.wrongAnswer
    · refine .inr ⟨record, hrecord, ?_⟩
      rcases record with other | _ | message
      · exact absurd ⟨other, hrecord⟩ hnone
      · exact absurd rfl hfailed
      · exact le_refl Verdict.wrongAnswer

/-- The verdict is the least that is no better than any single one. -/
theorem reduce_le_iff {records : List Record} {v : Verdict} :
    reduce records ≤ v ↔ ∀ record ∈ records, record.verdict ≤ v :=
  (worst_reduce records).le_iff

theorem reduce_singleton (record : Record) : reduce [record] = record.verdict := by
  apply eq_of_forall_ge_iff
  intro v
  rw [reduce_le_iff, List.forall_mem_singleton]

theorem reduce_append (xs ys : List Record) : reduce (xs ++ ys) = max (reduce xs) (reduce ys) := by
  apply eq_of_forall_ge_iff
  intro v
  rw [max_le_iff, reduce_le_iff, reduce_le_iff, reduce_le_iff, List.forall_mem_append]

theorem reduce_eq_foldr_max (records : List Record) :
    reduce records = (records.map fun record => reduce [record]).foldr max .accepted := by
  induction records with
  | nil => rfl
  | cons record records ih =>
    have happend : reduce ([record] ++ records) = max (reduce [record]) (reduce records) :=
      reduce_append [record] records
    rw [List.map_cons, List.foldr_cons, ← ih]
    exact happend

theorem reduce_mono {xs ys : List Record} (h : xs ⊆ ys) : reduce xs ≤ reduce ys := by
  rw [reduce_le_iff]
  intro record hrecord
  exact (worst_reduce ys).bound record (h hrecord)

/-- The verdict on a submission is the worst of the verdicts on its records: joining lists of
records takes the maximum of their verdicts, neither order nor repetition counts, and more records
never make a verdict better. -/
theorem reduce_is_maximum :
    (Verdict.accepted < .wrongAnswer ∧ Verdict.wrongAnswer < .runtimeError ∧
      Verdict.runtimeError < .compileError) ∧
    (reduce [] = .accepted ∧
      ∀ xs ys : List Record, reduce (xs ++ ys) = max (reduce xs) (reduce ys)) ∧
    ((∀ record : Record, reduce [record] = record.verdict) ∧
      ∀ records : List Record,
        reduce records = (records.map fun record => reduce [record]).foldr max .accepted) ∧
    (∀ xs ys : List Record, (∀ record, record ∈ xs ↔ record ∈ ys) → reduce xs = reduce ys) ∧
    ∀ xs ys : List Record, xs ⊆ ys → reduce xs ≤ reduce ys := by
  refine ⟨by decide, ⟨rfl, reduce_append⟩, ⟨reduce_singleton, reduce_eq_foldr_max⟩, ?_,
    fun xs ys => reduce_mono⟩
  intro xs ys hsame
  have hle : reduce xs ≤ reduce ys := reduce_mono fun record => (hsame record).mp
  have hge : reduce ys ≤ reduce xs := reduce_mono fun record => (hsame record).mpr
  exact le_antisymm hle hge

end Assay.Judge
