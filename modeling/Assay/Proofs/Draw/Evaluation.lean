import Assay.Proofs.Draw.Conformance
import Assay.Proofs.Draw.Results
import Assay.Proofs.Result

/-!
How a chain is evaluated: strictly from left to right, so that the first call that fails decides,
whatever stands behind it. A leaf call takes no notice of what stands on its left, so a chain that
is accepted means what its calls from the last leaf call on mean.
-/

namespace Assay.Draw

open Chain (Call Fault)
open Assay.Random (Source)

namespace Vocabulary

variable {v : Vocabulary} {left : Option Sampler} {p q calls : List Call} {fault : Fault}
  {σ : Sampler}

/-- Evaluation can be interrupted between any two calls. -/
theorem buildAll_append (v : Vocabulary) (left : Option Sampler) (p q : List Call) :
    v.buildAll left (p ++ q) = v.buildAll left p >>= fun left' => v.buildAll left' q := by
  induction p generalizing left with
  | nil => rfl
  | cons c p ih =>
    simp only [List.cons_append, buildAll]
    cases v.build left c with
    | error fault => rfl
    | ok σ => exact ih (some σ)

/-- Only the chain without calls comes to nothing. -/
theorem buildAll_ne_none (hne : calls ≠ []) : v.buildAll left calls ≠ .ok none := by
  intro hnone
  obtain ⟨before, c, rfl⟩ := List.eq_nil_or_concat calls |>.resolve_left hne
  rw [List.concat_eq_append, buildAll_append] at hnone
  obtain ⟨left', -, hlast⟩ := exists_of_bind_eq_ok hnone
  simp only [buildAll] at hlast
  cases hbuild : v.build left' c with
  | error fault => simp [hbuild] at hlast
  | ok σ => simp [hbuild] at hlast

theorem evaluate_eq_ok_iff : v.evaluate calls = .ok σ ↔ v.buildAll none calls = .ok (some σ) := by
  unfold evaluate
  rcases v.buildAll none calls with fault | _ | σ' <;> simp

theorem evaluate_eq_error_iff (hne : calls ≠ []) :
    v.evaluate calls = .error fault ↔ v.buildAll none calls = .error fault := by
  have hnone : v.buildAll none calls ≠ .ok none := buildAll_ne_none hne
  unfold evaluate
  rcases h : v.buildAll none calls with fault' | _ | σ
  · simp
  · exact absurd h hnone
  · simp

/-- The fault of a chain is the fault of its first call that fails. -/
theorem buildAll_eq_error_iff : v.buildAll left calls = .error fault ↔
    ∃ before c after left', calls = before ++ c :: after ∧ v.buildAll left before = .ok left' ∧
      v.build left' c = .error fault := by
  constructor
  · intro h
    induction calls generalizing left with
    | nil => cases h
    | cons c calls ih =>
      simp only [buildAll] at h
      cases hbuild : v.build left c with
      | error fault' =>
        rw [hbuild] at h
        cases h
        exact ⟨[], c, calls, left, rfl, rfl, hbuild⟩
      | ok σ =>
        rw [hbuild] at h
        obtain ⟨before, d, after, left', rfl, hbefore, hfault⟩ := ih h
        refine ⟨c :: before, d, after, left', rfl, ?_, hfault⟩
        simp only [buildAll, hbuild]
        exact hbefore
  · rintro ⟨before, c, after, left', rfl, hbefore, hfault⟩
    rw [buildAll_append, hbefore]
    simp only [buildAll, hfault, bind, Except.bind]

theorem evaluate_append_of_error (hne : p ≠ []) (h : v.evaluate p = .error fault)
    (q : List Call) : v.evaluate (p ++ q) = .error fault := by
  rw [evaluate_eq_error_iff (by simp [hne]), buildAll_append, (evaluate_eq_error_iff hne).mp h]
  rfl

end Vocabulary

section Leaves

variable {limits : DrawLimits} {l : Call} {p : List Call} {σ : Sampler}

/-- A leaf call replaces what stands on its left. -/
theorem build_leaf (hleaf : l.name ∈ leafNames) (left left' : Option Sampler) :
    (Vocabulary.standard limits).build left l = (Vocabulary.standard limits).build left' l := by
  obtain ⟨f, hfind, hbuild⟩ : ∃ f, (Vocabulary.standard limits).find? l.name = some f ∧
      f.build l left = f.build l left' := by
    rw [find?_standard]
    simp only [leafNames, List.mem_cons, List.not_mem_nil, or_false] at hleaf
    rcases hleaf with hname | hname | hname
    · exact ⟨intFunction, by simp [hname], rfl⟩
    · exact ⟨floatFunction, by simp [hname], rfl⟩
    · exact ⟨wordFunction, by simp [hname], rfl⟩
  simp only [Vocabulary.build, hfind, hbuild]

/-- What stands before a leaf call is forgotten, once it is accepted. -/
theorem evaluate_leaf (hleaf : l.name ∈ leafNames)
    (hp : (Vocabulary.standard limits).evaluate p = .ok σ) (q : List Call) :
    (Vocabulary.standard limits).evaluate (p ++ [l] ++ q) =
      (Vocabulary.standard limits).evaluate ([l] ++ q) := by
  have hall : (Vocabulary.standard limits).buildAll none (p ++ l :: q) =
      (Vocabulary.standard limits).buildAll none (l :: q) := by
    rw [Vocabulary.buildAll_append, Vocabulary.evaluate_eq_ok_iff.mp hp]
    simp only [Vocabulary.buildAll, bind, Except.bind, build_leaf hleaf (some σ) none]
  unfold Vocabulary.evaluate
  rw [List.append_assoc, List.singleton_append, hall]

/-- Two samplers give the same results for ever and use up the source alike, whatever its words. -/
def DrawAlike (σ σ' : Sampler) : Prop :=
  ∀ (source : Source) (count : Nat),
    σ.results σ.start source count = σ'.results σ'.start source count ∧
      (σ.after σ.start source count).2 = (σ'.after σ'.start source count).2

theorem DrawAlike.refl (σ : Sampler) : DrawAlike σ σ := fun _ _ => ⟨rfl, rfl⟩

/-- An accepted chain means what its calls from the last leaf call on mean. -/
theorem exists_suffix_of_evaluate {calls : List Call}
    (h : (Vocabulary.standard limits).evaluate calls = .ok σ) :
    ∃ before leaf arrays, calls = before ++ leaf :: arrays ∧ leaf.name ∈ leafNames ∧
      (∀ c ∈ arrays, c.name = "array") ∧
      (Vocabulary.standard limits).evaluate (leaf :: arrays) = .ok σ := by
  obtain ⟨before, leaf, arrays, rfl, hleaf, harrays, -⟩ := conforming_evaluate h
  refine ⟨before, leaf, arrays, rfl, hleaf, fun c hc => (harrays c hc).1, ?_⟩
  cases hbefore : (Vocabulary.standard limits).evaluate before with
  | ok σ' =>
    have hforgotten := evaluate_leaf hleaf hbefore arrays
    rw [List.append_assoc, List.singleton_append] at hforgotten
    rw [← hforgotten]
    exact h
  | error fault =>
    by_cases hnil : before = []
    · rw [hnil] at h
      exact h
    · rw [Vocabulary.evaluate_append_of_error hnil hbefore] at h
      cases h

end Leaves

/-- Evaluation goes strictly from left to right. A fault stays whatever calls follow, and it is the
fault of the leftmost call that fails. What stands before a leaf call makes no difference once it
is accepted, so an accepted chain draws like its calls from the last leaf call on. -/
theorem evaluate_left_to_right :
    (∀ (v : Vocabulary) (p q : List Call) (fault : Fault), p ≠ [] →
      v.evaluate p = .error fault → v.evaluate (p ++ q) = .error fault) ∧
    (∀ (v : Vocabulary) (calls : List Call) (fault : Fault), calls ≠ [] →
      (v.evaluate calls = .error fault ↔
        ∃ before c after left, calls = before ++ c :: after ∧ v.buildAll none before = .ok left ∧
          v.build left c = .error fault)) ∧
    (∀ (limits : DrawLimits) (p q : List Call) (l : Call), l.name ∈ leafNames →
      (∃ σ, (Vocabulary.standard limits).evaluate p = .ok σ) →
      (∃ fault, (Vocabulary.standard limits).evaluate (p ++ [l] ++ q) = .error fault ∧
        (Vocabulary.standard limits).evaluate ([l] ++ q) = .error fault) ∨
      ∃ σ σ', (Vocabulary.standard limits).evaluate (p ++ [l] ++ q) = .ok σ ∧
        (Vocabulary.standard limits).evaluate ([l] ++ q) = .ok σ' ∧ DrawAlike σ σ') ∧
    ∀ (limits : DrawLimits) (calls : List Call) (σ : Sampler),
      (Vocabulary.standard limits).evaluate calls = .ok σ →
      ∃ before leaf arrays, calls = before ++ leaf :: arrays ∧ leaf.name ∈ leafNames ∧
        (∀ c ∈ arrays, c.name = "array") ∧
        ∃ σ', (Vocabulary.standard limits).evaluate (leaf :: arrays) = .ok σ' ∧ DrawAlike σ σ' := by
  refine ⟨?_, ?_, ?_, ?_⟩
  · intro v p q fault hne h
    exact Vocabulary.evaluate_append_of_error hne h q
  · intro v calls fault hne
    exact (Vocabulary.evaluate_eq_error_iff hne).trans Vocabulary.buildAll_eq_error_iff
  · rintro limits p q l hleaf ⟨σ₀, hp⟩
    rw [evaluate_leaf hleaf hp q]
    cases h : (Vocabulary.standard limits).evaluate ([l] ++ q) with
    | error fault => exact .inl ⟨fault, rfl, rfl⟩
    | ok σ => exact .inr ⟨σ, σ, rfl, rfl, .refl σ⟩
  · intro limits calls σ h
    obtain ⟨before, leaf, arrays, hcalls, hleaf, harrays, hsuffix⟩ := exists_suffix_of_evaluate h
    exact ⟨before, leaf, arrays, hcalls, hleaf, harrays, σ, hsuffix, .refl σ⟩

end Assay.Draw
