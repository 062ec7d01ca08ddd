import Assay.Draw.Value
import Assay.Proofs.Number.Order
import Mathlib.Data.List.Basic

/-!
Equality of drawn values is symmetric and transitive, so a list without a repetition may be read in
any order, and what equals a repetition equals the value that it repeats. Doubles are compared as
numbers: the two zeros are equal, and a value with a not-a-number in it does not even equal itself.
-/

namespace Assay.Number.Binary64

theorem equal_comm (x y : Binary64) : x.equal y = y.equal x := by
  rw [Bool.eq_iff_iff, equal_iff, equal_iff]
  constructor
  · rintro ⟨hx, hy, hplace⟩
    exact ⟨hy, hx, hplace.symm⟩
  · rintro ⟨hy, hx, hplace⟩
    exact ⟨hx, hy, hplace.symm⟩

theorem equal_trans {x y z : Binary64} (hxy : x.equal y = true) (hyz : y.equal z = true) :
    x.equal z = true := by
  rw [equal_iff] at hxy hyz ⊢
  exact ⟨hxy.1, hyz.2.1, hxy.2.2.trans hyz.2.2⟩

theorem equal_self {x : Binary64} (h : x ≠ .nan) : x.equal x = true :=
  equal_iff.mpr ⟨h, h, rfl⟩

theorem equal_neg_iff {x : Binary64} (h : x ≠ .nan) : x.equal (-x) = true ↔ x.place = 0 := by
  have hneg : -x ≠ .nan := by
    cases x with
    | nan => exact absurd rfl h
    | infinite => exact Binary64.noConfusion
    | finite => exact Binary64.noConfusion
  rw [equal_iff_place h hneg, place_neg]
  omega

end Assay.Number.Binary64

namespace Assay.Draw

namespace Value

mutual

theorem equal_comm (u v : Value) : u.equal v = v.equal u := by
  cases u with
  | int a =>
    cases v with
    | int b => exact BEq.comm
    | float | text | array => simp only [equal]
  | float x =>
    cases v with
    | float y => exact x.equal_comm y
    | int | text | array => simp only [equal]
  | text s =>
    cases v with
    | text t => exact BEq.comm
    | int | float | array => simp only [equal]
  | array us =>
    cases v with
    | array vs =>
      simp only [equal]
      exact equalAll_comm us vs
    | int | float | text => simp only [equal]

theorem equalAll_comm (us vs : List Value) : equalAll us vs = equalAll vs us := by
  cases us with
  | nil => cases vs <;> simp only [equalAll]
  | cons u us =>
    cases vs with
    | nil => simp only [equalAll]
    | cons v vs => simp only [equalAll, equal_comm u v, equalAll_comm us vs]

end

mutual

theorem equal_trans {u v w : Value} (huv : u.equal v = true) (hvw : v.equal w = true) :
    u.equal w = true := by
  cases u with
  | int a =>
    cases v with
    | int b =>
      cases w with
      | int c =>
        simp only [equal, beq_iff_eq] at huv hvw ⊢
        exact huv.trans hvw
      | float | text | array => simp [equal] at hvw
    | float | text | array => simp [equal] at huv
  | float x =>
    cases v with
    | float y =>
      cases w with
      | float z =>
        simp only [equal] at huv hvw ⊢
        exact Number.Binary64.equal_trans huv hvw
      | int | text | array => simp [equal] at hvw
    | int | text | array => simp [equal] at huv
  | text s =>
    cases v with
    | text t =>
      cases w with
      | text r =>
        simp only [equal, beq_iff_eq] at huv hvw ⊢
        exact huv.trans hvw
      | int | float | array => simp [equal] at hvw
    | int | float | array => simp [equal] at huv
  | array us =>
    cases v with
    | array vs =>
      cases w with
      | array ws =>
        simp only [equal] at huv hvw ⊢
        exact equalAll_trans huv hvw
      | int | float | text => simp [equal] at hvw
    | int | float | text => simp [equal] at huv

theorem equalAll_trans {us vs ws : List Value} (huv : equalAll us vs = true)
    (hvw : equalAll vs ws = true) : equalAll us ws = true := by
  cases us with
  | nil =>
    cases vs with
    | nil => exact hvw
    | cons => simp [equalAll] at huv
  | cons u us =>
    cases vs with
    | nil => simp [equalAll] at huv
    | cons v vs =>
      cases ws with
      | nil => simp [equalAll] at hvw
      | cons w ws =>
        simp only [equalAll, Bool.and_eq_true] at huv hvw ⊢
        exact ⟨equal_trans huv.1 hvw.1, equalAll_trans huv.2 hvw.2⟩

end

mutual

/-- Somewhere in the value there is a not-a-number. -/
def hasNan : Value → Bool
  | .float x => x == .nan
  | .array items => anyHasNan items
  | _ => false

def anyHasNan : List Value → Bool
  | [] => false
  | v :: rest => v.hasNan || anyHasNan rest

end

mutual

/-- A value equals itself just if there is no not-a-number in it. -/
theorem equal_self_iff {v : Value} : v.equal v = true ↔ v.hasNan = false := by
  cases v with
  | int n => simp [equal, hasNan]
  | float x =>
    simp only [equal, hasNan, beq_eq_false_iff_ne]
    exact ⟨fun h => (Number.Binary64.equal_iff.mp h).1, Number.Binary64.equal_self⟩
  | text s => simp [equal, hasNan]
  | array items =>
    simp only [equal, hasNan]
    exact equalAll_self_iff

theorem equalAll_self_iff {vs : List Value} : equalAll vs vs = true ↔ anyHasNan vs = false := by
  cases vs with
  | nil => simp [equalAll, anyHasNan]
  | cons v vs =>
    simp only [equalAll, anyHasNan, Bool.and_eq_true, Bool.or_eq_false_iff]
    exact and_congr equal_self_iff equalAll_self_iff

end

theorem equal_self {v : Value} (h : v.hasNan = false) : v.equal v = true :=
  equal_self_iff.mpr h

/-- A value with a not-a-number in it equals nothing. -/
theorem equal_eq_false_of_hasNan {v : Value} (h : v.hasNan = true) (u : Value) :
    u.equal v = false := by
  rw [← Bool.not_eq_true]
  intro hequal
  have hflipped : v.equal u = true := by rwa [equal_comm]
  have hself := equal_self_iff.mp (equal_trans hflipped hequal)
  rw [h] at hself
  cases hself

/-- Drawn doubles are compared as numbers. -/
theorem float_equal_iff {x y : Number.Binary64} :
    (float x).equal (float y) = true ↔ x ≠ .nan ∧ y ≠ .nan ∧ x.place = y.place := by
  rw [equal, Number.Binary64.equal_iff]

/-- A drawn double equals its opposite just if it is a zero of either sign. -/
theorem float_equal_neg_iff {x : Number.Binary64} (h : x ≠ .nan) :
    (float x).equal (float (-x)) = true ↔ x.place = 0 := by
  rw [equal, Number.Binary64.equal_neg_iff h]

example : (float 0).equal (float (-0)) = true := by decide +kernel

end Value

/-- No two of the values are equal. -/
def Distinct (items : List Value) : Prop := items.Pairwise fun u v => u.equal v = false

theorem Distinct.equal_getElem {items : List Value} (h : Distinct items) {i j : Nat}
    (hi : i < items.length) (hj : j < items.length) (hne : i ≠ j) :
    items[i].equal items[j] = false := by
  rcases Nat.lt_or_gt_of_ne hne with hlt | hgt
  · exact List.pairwise_iff_getElem.mp h i j hi hj hlt
  · rw [Value.equal_comm]
    exact List.pairwise_iff_getElem.mp h j i hj hi hgt

end Assay.Draw
