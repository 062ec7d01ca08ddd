import Assay.Draw.Vocabulary

/-!
Drawing values one after another: what is kept by every draw holds of all results.
-/

namespace Assay.Draw

/-- What holds of every draw, from the memories that a sampler can come to have, holds of all
results of a generator. -/
theorem Generator.forall_mem_results_of_step {σ : Sampler} {I : σ.Memory → Prop}
    {P : Except Halt Value → Prop}
    (hstep : ∀ memory, I memory → ∀ source,
      P (σ.draw memory source).1 ∧ I (σ.draw memory source).2.1)
    {memory : σ.Memory} (h : I memory) (source : Random.Source) (count : Nat) :
    ∀ result ∈ (Generator.mk σ memory source).results count, P result := by
  induction count generalizing memory source with
  | zero => simp [Generator.results]
  | succ count ih =>
    obtain ⟨hresult, hnext⟩ := hstep memory h source
    simp only [Generator.results, List.forall_mem_cons]
    exact ⟨hresult, ih hnext _⟩

end Assay.Draw
