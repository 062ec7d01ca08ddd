import Assay.Chain.Call
import Mathlib.Data.List.Basic

/-!
Which arguments of a call count: of its ranges the first one, and of the options of one name the
last one.
-/

namespace Assay.Chain

open Number (Binary64)

namespace Argument

theorem range?_eq_some_iff {x : Argument} {low high : Binary64} :
    x.range? = some (low, high) ↔ x = .range low high := by
  cases x <;> simp [range?]

theorem range?_eq_none_iff {x : Argument} : x.range? = none ↔ ∀ low high, x ≠ .range low high := by
  cases x <;> simp [range?]

theorem option?_eq_some_iff {x : Argument} {key : String} {value : OptionValue} :
    x.option? key = some value ↔ x = .option key value := by
  cases x <;> simp [option?]

theorem option?_eq_none_iff {x : Argument} {key : String} :
    x.option? key = none ↔ ∀ value, x ≠ .option key value := by
  cases x <;> simp [option?]

end Argument

namespace Call

/-- The bounds of a call: those of its first range, or the default if it has no range. -/
def HasRange (c : Call) (default : Binary64 × Binary64) (low high : Binary64) : Prop :=
  (∃ before after, c.arguments = before ++ .range low high :: after ∧
      ∀ x ∈ before, ∀ l h, x ≠ .range l h) ∨
    ((∀ x ∈ c.arguments, ∀ l h, x ≠ .range l h) ∧ default = (low, high))

/-- The last option named `key` has this value. -/
def LastOption (c : Call) (key : String) (value : OptionValue) : Prop :=
  ∃ before after, c.arguments = before ++ .option key value :: after ∧
    ∀ x ∈ after, ∀ v, x ≠ .option key v

theorem hasRange_range?_getD (c : Call) (default : Binary64 × Binary64) :
    c.HasRange default (c.range?.getD default).1 (c.range?.getD default).2 := by
  cases h : c.range? with
  | none =>
    refine .inr ⟨fun x hx => Argument.range?_eq_none_iff.mp ?_, rfl⟩
    exact List.findSome?_eq_none_iff.mp h x hx
  | some bounds =>
    obtain ⟨before, x, after, hsplit, hx, hbefore⟩ := List.findSome?_eq_some_iff.mp h
    rw [Argument.range?_eq_some_iff.mp hx] at hsplit
    exact .inl ⟨before, after, hsplit, fun y hy => Argument.range?_eq_none_iff.mp (hbefore y hy)⟩

theorem HasRange.range?_getD {c : Call} {default : Binary64 × Binary64} {low high : Binary64}
    (h : c.HasRange default low high) : c.range?.getD default = (low, high) := by
  rcases h with ⟨before, after, hsplit, hbefore⟩ | ⟨hnone, hdefault⟩
  · have hrange : c.range? = some (low, high) := by
      refine List.findSome?_eq_some_iff.mpr ⟨before, _, after, hsplit, rfl, ?_⟩
      exact fun x hx => Argument.range?_eq_none_iff.mpr (hbefore x hx)
    rw [hrange, Option.getD_some]
  · have hrange : c.range? = none := by
      refine List.findSome?_eq_none_iff.mpr fun x hx => ?_
      exact Argument.range?_eq_none_iff.mpr (hnone x hx)
    rw [hrange, Option.getD_none, hdefault]

theorem option?_eq_some_iff {c : Call} {key : String} {value : OptionValue} :
    c.option? key = some value ↔ c.LastOption key value := by
  unfold option? LastOption
  rw [List.findSome?_eq_some_iff]
  constructor
  · rintro ⟨after, x, before, hsplit, hx, hafter⟩
    rw [Argument.option?_eq_some_iff.mp hx] at hsplit
    refine ⟨before.reverse, after.reverse, by simpa using congrArg List.reverse hsplit, ?_⟩
    intro y hy
    exact Argument.option?_eq_none_iff.mp (hafter y (List.mem_reverse.mp hy))
  · rintro ⟨before, after, hsplit, hafter⟩
    refine ⟨after.reverse, _, before.reverse, by simp [hsplit],
      Argument.option?_eq_some_iff.mpr rfl, ?_⟩
    intro y hy
    exact Argument.option?_eq_none_iff.mpr (hafter y (List.mem_reverse.mp hy))

end Call

end Assay.Chain
