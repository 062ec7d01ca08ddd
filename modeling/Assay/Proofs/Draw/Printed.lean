import Assay.Proofs.Draw.Conformance

/-!
The texts of drawn values consist of letters, digits, signs, points and spaces.
-/

namespace Assay.Number

variable {c : Char} {cs ds : List Char}

/-- A character of a drawn text. -/
def isPrinted (c : Char) : Bool := c.isAlphanum || c == '-' || c == '.' || c == ' '

def Printed (cs : List Char) : Prop := ∀ c ∈ cs, isPrinted c = true

theorem Printed.append (hcs : Printed cs) (hds : Printed ds) : Printed (cs ++ ds) := by
  intro c hc
  rcases List.mem_append.1 hc with hc | hc
  · exact hcs c hc
  · exact hds c hc

theorem Printed.cons (hc : isPrinted c = true) (hcs : Printed cs) : Printed (c :: cs) :=
  List.forall_mem_cons.2 ⟨hc, hcs⟩

theorem printed_replicate (n : Nat) : Printed (List.replicate n '0') := by
  intro c hc
  rw [List.eq_of_mem_replicate hc]
  rfl

theorem printed_decimalDigitsOf (n : Nat) : Printed (decimalDigitsOf n) := by
  intro c hc
  have hdigit : c.isDigit = true := Nat.isDigit_of_mem_toDigits (by decide) (by decide) hc
  simp [isPrinted, Char.isAlphanum, hdigit]

theorem printed_positional (d : Decimal) : Printed (positional false d) := by
  have hdigits := printed_decimalDigitsOf d.digits
  unfold positional
  cases d.exponent with
  | ofNat e =>
    by_cases hzero : d.digits = 0
    · simpa [hzero] using printed_replicate 1
    · simpa [hzero] using hdigits.append (printed_replicate e)
  | negSucc e =>
    have hpadded : Printed (padLeft (e + 1 + 1) (decimalDigitsOf d.digits)) :=
      (printed_replicate _).append hdigits
    refine Printed.append ?_ (Printed.cons rfl ?_)
    · exact fun c hc => hpadded c (List.mem_of_mem_take hc)
    · exact fun c hc => hpadded c (List.mem_of_mem_drop hc)

theorem Binary64.printed_plain (x : Binary64) : Printed x.plain.toList := by
  cases x with
  | nan => exact List.all_eq_true.1 (by decide)
  | infinite negative =>
    cases negative with
    | false => exact List.all_eq_true.1 (by decide)
    | true => exact List.all_eq_true.1 (by decide)
  | finite negative units fits =>
    have hbody := printed_positional (Decimal.shortest units)
    cases negative with
    | false => simpa [plain, toText, NumberStyle.plain] using hbody
    | true => simpa [plain, toText, NumberStyle.plain] using hbody.cons rfl

end Assay.Number

namespace Assay.Draw

open Number (Printed isPrinted)

theorem printed_intText (n : Int64) : Printed (Value.intText n).toList := by
  have hdigits := Number.printed_decimalDigitsOf n.toInt.natAbs
  by_cases hneg : n.toInt < 0
  · simpa [Value.intText, hneg] using hdigits.cons rfl
  · simpa [Value.intText, hneg] using hdigits

theorem printed_dictionary : ∀ s ∈ dictionary, Printed s.toList := by
  have hwords : dictionary.toList.all (fun s => s.toList.all isPrinted) = true := by
    decide +kernel
  intro s hs
  exact List.all_eq_true.1 (List.all_eq_true.1 hwords s (Array.mem_toList_iff.2 hs))

theorem printed_writeItems {items : List Value} {before : String}
    (hitems : ∀ item ∈ items, ∀ before : String, Printed before.toList →
      Printed (item.write before).toList) (hbefore : Printed before.toList) :
    Printed (Value.writeItems before items).toList := by
  induction items generalizing before with
  | nil => exact hbefore
  | cons item rest ih =>
    have hitem := hitems item List.mem_cons_self before hbefore
    cases rest with
    | nil => exact hitem
    | cons next rest =>
      refine ih (fun item' hitem' => hitems item' (List.mem_cons_of_mem _ hitem')) ?_
      rw [String.toList_append]
      exact hitem.append (Printed.cons rfl nofun)

/-- The text of a value that conforms to a chain. -/
theorem Conforms.printed {leaf : Chain.Call} {arrays : List Chain.Call} {v : Value}
    (h : Conforms leaf arrays v) {before : String} (hbefore : Printed before.toList) :
    Printed (v.write before).toList := by
  induction h generalizing before with
  | int n _ _ _ _ _ _ =>
    rw [Value.write, String.toList_append]
    exact hbefore.append (printed_intText n)
  | float x _ =>
    rw [Value.write, String.toList_append]
    exact hbefore.append (Number.Binary64.printed_plain _)
  | word s _ hs =>
    rw [Value.write, String.toList_append]
    exact hbefore.append (printed_dictionary s hs)
  | array c inner items a b _ _ _ _ _ ih =>
    rw [Value.write]
    exact printed_writeItems (fun item hitem before hbefore => ih item hitem hbefore) hbefore

theorem printed_of_mem_results {limits : DrawLimits} {calls : List Chain.Call} {σ : Sampler}
    (h : (Vocabulary.standard limits).evaluate calls = .ok σ) {source : Random.Source}
    {count : Nat} {v : Value} (hv : .ok v ∈ (Generator.mk σ σ.start source).results count) :
    Printed v.format.toList := by
  obtain ⟨before, leaf, arrays, -, -, -, hdraws⟩ := conforming_evaluate h
  have hmeets := forall_mem_results (g := ⟨σ, σ.start, source⟩) hdraws count _ hv
  cases hmeets with
  | ok hconforms => exact hconforms.printed nofun

end Assay.Draw
