/-!
Steps that can fail, one after another: all of them give a result, or the first fault decides.
-/

namespace Assay

variable {α β ε : Type}

theorem exists_of_bind_eq_ok.{u} {α β : Type u} {x : Except ε α} {f : α → Except ε β} {b : β}
    (h : x >>= f = .ok b) : ∃ a, x = .ok a ∧ f a = .ok b := by
  cases x with
  | error e => cases h
  | ok a => exact ⟨a, rfl, h⟩

theorem exists_of_map_eq_ok {x : Except ε α} {f : α → β} {b : β} (h : x.map f = .ok b) :
    ∃ a, x = .ok a ∧ f a = b := by
  cases x with
  | error e => cases h
  | ok a => exact ⟨a, rfl, Except.ok.inj h⟩

theorem exists_of_toBool.{u} {α : Type u} {x : Except ε α} (h : x.toBool = true) :
    ∃ a, x = .ok a := by
  cases x with
  | error e => cases h
  | ok a => exact ⟨a, rfl⟩

/-- Reading a list gives all the results, or the fault of the first item that has one. -/
theorem mapM_cases (f : α → Except ε β) (as : List α) :
    (∃ bs, as.mapM f = .ok bs ∧ ∀ a ∈ as, ∃ b, f a = .ok b) ∨
      ∃ before a after e, as = before ++ a :: after ∧ (∀ b ∈ before, ∃ y, f b = .ok y) ∧
        f a = .error e ∧ as.mapM f = .error e := by
  induction as with
  | nil => exact .inl ⟨[], rfl, by simp⟩
  | cons a as ih =>
    cases ha : f a with
    | error e =>
      refine .inr ⟨[], a, as, e, rfl, by simp, ha, ?_⟩
      rw [List.mapM_cons, ha]
      rfl
    | ok b =>
      rcases ih with ⟨bs, hbs, hall⟩ | ⟨before, c, after, e, rfl, hbefore, hc, herror⟩
      · refine .inl ⟨b :: bs, ?_, List.forall_mem_cons.2 ⟨⟨b, ha⟩, hall⟩⟩
        rw [List.mapM_cons, ha, hbs]
        rfl
      · refine .inr ⟨a :: before, c, after, e, rfl, List.forall_mem_cons.2 ⟨⟨b, ha⟩, hbefore⟩, hc,
          ?_⟩
        rw [List.mapM_cons, ha, herror]
        rfl

theorem ok_of_mapM_eq_ok {f : α → Except ε β} {as : List α} {bs : List β}
    (h : as.mapM f = .ok bs) : ∀ a ∈ as, ∃ b, f a = .ok b := by
  rcases mapM_cases f as with ⟨-, -, hall⟩ | ⟨-, -, -, e, -, -, -, herror⟩
  · exact hall
  · rw [herror] at h
    cases h

/-- What is written item by item is read item by item. -/
theorem mapM_map_eq_ok {γ : Type} {f : β → Except ε γ} {write : α → β} {meaning : α → γ}
    (h : ∀ a, f (write a) = .ok (meaning a)) (as : List α) :
    (as.map write).mapM f = .ok (as.map meaning) := by
  induction as with
  | nil => rfl
  | cons a as ih =>
    rw [List.map_cons, List.mapM_cons, h, ih]
    rfl

end Assay
