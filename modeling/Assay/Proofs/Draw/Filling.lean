import Assay.Draw.Builtin
import Assay.Proofs.Draw.Equality
import Assay.Proofs.Random.Uniform

/-!
What the draws of an array have in common, given what the draws of its inner sampler have in
common. Everything is said of any memory and any source, so it holds of the first draw and of
every later one, also after draws that failed.
-/

namespace Assay.Draw

open Assay.Random (IntegerRange Source)

/-- A result that is good if it is a value, and excused if it is not. -/
inductive Meets {α : Type} (Good : α → Prop) (Excused : Halt → Prop) : Except Halt α → Prop where
  | ok {a : α} (h : Good a) : Meets Good Excused (.ok a)
  | error {halt : Halt} (h : Excused halt) : Meets Good Excused (.error halt)

theorem Meets.mono {α : Type} {Good Good' : α → Prop} {Excused Excused' : Halt → Prop}
    {result : Except Halt α} (h : Meets Good Excused result) (hgood : ∀ a, Good a → Good' a)
    (hexcused : ∀ halt, Excused halt → Excused' halt) : Meets Good' Excused' result := by
  cases h with
  | ok h => exact .ok (hgood _ h)
  | error h => exact .error (hexcused _ h)

namespace Sampler

/-- Every draw is good or excused. -/
def Draws (σ : Sampler) (Good : Value → Prop) (Excused : Halt → Prop) : Prop :=
  ∀ memory source, Meets Good Excused (σ.draw memory source).1

theorem ofDraw_draws {Good : Value → Prop} {Excused : Halt → Prop}
    {draw : Source → Except Halt Value × Source}
    (h : ∀ source, Meets Good Excused (draw source).1) :
    (ofDraw draw).Draws Good Excused :=
  fun _ source => h source

end Sampler

/-- A distinct value could not be found. -/
def IsExhausted (halt : Halt) : Prop := ∃ wanted found, halt = .fault (.exhausted wanted found)

section Filling

variable {inner : Sampler} {Good : Value → Prop} {Excused : Halt → Prop}
  (hinner : inner.Draws Good Excused)

include hinner

theorem fill_meets (missing : Nat) (f : Filling inner.Memory) (hf : ∀ v ∈ f.items, Good v) :
    Meets (fun items => items.length = f.items.length + missing ∧ ∀ v ∈ items, Good v) Excused
      (fill inner missing f).1 := by
  induction missing generalizing f with
  | zero => exact .ok ⟨by simp, by simpa using hf⟩
  | succ missing ih =>
    have hdraw := hinner f.memory f.source
    rcases h : inner.draw f.memory f.source with ⟨result, memory, source⟩
    rw [h] at hdraw
    cases hdraw with
    | error hexcused =>
      simp only [fill, h]
      exact .error hexcused
    | @ok value hvalue =>
      simp only [fill, h]
      refine (ih ⟨value :: f.items, memory, source⟩ ?_).mono ?_ fun _ he => he
      · exact List.forall_mem_cons.mpr ⟨hvalue, hf⟩
      · rintro items ⟨hlength, hgood⟩
        exact ⟨by rw [hlength, List.length_cons]; omega, hgood⟩

theorem drawDistinct_meets (seen : List Value) (tries : Nat) (memory : inner.Memory)
    (source : Source) : ∀ result ∈ (drawDistinct inner seen tries memory source).1,
      Meets (fun v => Good v ∧ ∀ u ∈ seen, u.equal v = false) Excused result := by
  induction tries generalizing memory source with
  | zero => simp [drawDistinct]
  | succ tries ih =>
    have hdraw := hinner memory source
    rcases h : inner.draw memory source with ⟨result, memory', source'⟩
    rw [h] at hdraw
    cases hdraw with
    | error hexcused =>
      simp only [drawDistinct, h, Option.mem_some_iff]
      rintro _ rfl
      exact .error hexcused
    | ok hvalue =>
      simp only [drawDistinct, h]
      split
      · exact ih memory' source'
      · next hnew =>
        simp only [Option.mem_some_iff]
        rintro _ rfl
        exact .ok ⟨hvalue, by simpa using hnew⟩

theorem fillDistinct_meets (wanted tries missing : Nat) (f : Filling inner.Memory)
    (hf : ∀ v ∈ f.items, Good v) (hdistinct : Distinct f.items.reverse) :
    Meets
      (fun items => items.length = f.items.length + missing ∧ (∀ v ∈ items, Good v) ∧
        Distinct items)
      (fun halt => Excused halt ∨ IsExhausted halt)
      (fillDistinct inner wanted tries missing f).1 := by
  induction missing generalizing f with
  | zero => exact .ok ⟨by simp, by simpa using hf, hdistinct⟩
  | succ missing ih =>
    have hdraw := drawDistinct_meets hinner f.items tries f.memory f.source
    rcases h : drawDistinct inner f.items tries f.memory f.source with ⟨result, memory, source⟩
    rw [h] at hdraw
    simp only [fillDistinct, h]
    match result with
    | none => exact .error (.inr ⟨_, _, rfl⟩)
    | some (.error halt) =>
      obtain _ | hexcused := hdraw _ rfl
      exact .error (.inl hexcused)
    | some (.ok value) =>
      obtain ⟨hgood, hnew⟩ := hdraw _ rfl
      refine (ih ⟨value :: f.items, memory, source⟩ ?_ ?_).mono ?_ fun _ he => he
      · exact List.forall_mem_cons.mpr ⟨hgood, hf⟩
      · unfold Distinct
        rw [List.reverse_cons, List.pairwise_append]
        refine ⟨hdistinct, List.pairwise_singleton _ _, ?_⟩
        simpa using hnew
      · rintro items ⟨hlength, hrest⟩
        exact ⟨by rw [hlength, List.length_cons]; omega, hrest⟩

/-- The draws of an array: it is as long as was drawn, its items are good, and if it is unique they
are distinct; only a unique array can be exhausted. -/
theorem arraySampler_meets (lengths : IntegerRange) (unique : Bool) (tries : Nat)
    (memory : inner.Memory) (source : Source) :
    Meets
      (fun v => ∃ items, v = .array items ∧ items.length = (lengths.draw source).1.toInt.toNat ∧
        (∀ item ∈ items, Good item) ∧ (unique = true → Distinct items))
      (fun halt => Excused halt ∨ (unique = true ∧ IsExhausted halt))
      ((arraySampler inner lengths unique tries).draw memory source).1 := by
  rcases h : lengths.draw source with ⟨length, source'⟩
  let filling : Filling inner.Memory := ⟨[], memory, source'⟩
  have hfill : Meets
      (fun items => items.length = length.toInt.toNat ∧ (∀ v ∈ items, Good v) ∧
        (unique = true → Distinct items))
      (fun halt => Excused halt ∨ (unique = true ∧ IsExhausted halt))
      (if unique then fillDistinct inner length.toInt.toNat tries length.toInt.toNat filling
        else fill inner length.toInt.toNat filling).1 := by
    cases unique with
    | false =>
      refine (fill_meets hinner _ filling (by simp [filling])).mono ?_ fun _ he => .inl he
      rintro items ⟨hlength, hgood⟩
      exact ⟨by simpa [filling] using hlength, hgood, by simp⟩
    | true =>
      refine (fillDistinct_meets hinner _ tries _ filling (by simp [filling]) .nil).mono ?_ ?_
      · rintro items ⟨hlength, hgood, hdistinct⟩
        exact ⟨by simpa [filling] using hlength, hgood, fun _ => hdistinct⟩
      · exact fun halt he => he.imp_right fun hexhausted => ⟨rfl, hexhausted⟩
  simp only [arraySampler, h]
  generalize (if unique then fillDistinct inner length.toInt.toNat tries length.toInt.toNat filling
    else fill inner length.toInt.toNat filling) = filled at hfill ⊢
  obtain ⟨result, memory', source''⟩ := filled
  cases hfill with
  | error hexcused => exact .error hexcused
  | ok h =>
    obtain ⟨hlength, hgood, hdistinct⟩ := h
    exact .ok ⟨_, rfl, hlength, hgood, hdistinct⟩

/-- The length of an array is in the range. -/
theorem arraySampler_draws {lengths : IntegerRange} (hpos : 0 ≤ lengths.low.toInt) (unique : Bool)
    (tries : Nat) :
    (arraySampler inner lengths unique tries).Draws
      (fun v => ∃ items, v = .array items ∧ lengths.low.toInt ≤ items.length ∧
        items.length ≤ lengths.high.toInt ∧ (∀ item ∈ items, Good item) ∧
        (unique = true → Distinct items))
      (fun halt => Excused halt ∨ (unique = true ∧ IsExhausted halt)) := by
  intro memory source
  obtain ⟨hlow, hhigh⟩ := lengths.draw_mem source
  refine (arraySampler_meets hinner lengths unique tries memory source).mono ?_ fun _ he => he
  rintro _ ⟨items, rfl, hlength, hgood, hdistinct⟩
  exact ⟨items, rfl, by omega, by omega, hgood, hdistinct⟩

end Filling

end Assay.Draw
