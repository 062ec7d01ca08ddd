/-!
Texts joined by a separating character, and cut there again.
-/

namespace Assay.Text

variable {sep c : Char} {parts : List (List Char)} {part : List Char}

theorem intercalate_cons (sep : Char) (part : List Char) (parts : List (List Char)) :
    [sep].intercalate (part :: parts) = part ++ parts.flatMap (sep :: ·) := by
  induction parts generalizing part with
  | nil => simp
  | cons next parts ih => rw [List.intercalate_cons_cons, ih]; simp

theorem intercalate_append (hne : parts ≠ []) (back : List (List Char)) :
    [sep].intercalate (parts ++ back) = [sep].intercalate parts ++ back.flatMap (sep :: ·) := by
  obtain ⟨part, parts, rfl⟩ := List.exists_cons_of_ne_nil hne
  rw [List.cons_append, intercalate_cons, intercalate_cons, List.flatMap_append, List.append_assoc]

theorem mem_intercalate (hpart : part ∈ parts) (hc : c ∈ part) : c ∈ [sep].intercalate parts := by
  obtain ⟨before, after, rfl⟩ := List.append_of_mem hpart
  cases before with
  | nil =>
    rw [List.nil_append, intercalate_cons]
    exact List.mem_append_left _ hc
  | cons first before =>
    rw [intercalate_append (List.cons_ne_nil _ _), List.flatMap_cons]
    exact List.mem_append_right _ (List.mem_append_left _ (List.mem_cons_of_mem _ hc))

theorem mem_of_mem_intercalate (hc : c ∈ [sep].intercalate parts) :
    c = sep ∨ ∃ part ∈ parts, c ∈ part := by
  cases parts with
  | nil => cases hc
  | cons part parts =>
    rw [intercalate_cons, List.mem_append, List.mem_flatMap] at hc
    rcases hc with hc | ⟨next, hnext, hc⟩
    · exact .inr ⟨part, List.mem_cons_self, hc⟩
    · exact (List.mem_cons.1 hc).imp_right fun hc => ⟨next, List.mem_cons_of_mem _ hnext, hc⟩

/-- A cut that collects the open part character by character is the cut of the library. -/
theorem eq_splitOnPPrepend {cut : List Char → List Char → List (List Char)}
    (hnil : ∀ pending, cut pending [] = [pending.reverse])
    (hcons : ∀ pending c cs, cut pending (c :: cs) =
      if c = sep then pending.reverse :: cut [] cs else cut (c :: pending) cs)
    (pending cs : List Char) : cut pending cs = cs.splitOnPPrepend (· == sep) pending := by
  induction cs generalizing pending with
  | nil => exact hnil pending
  | cons c cs ih =>
    rw [hcons, List.splitOnPPrepend_cons_eq_if, ih, ← List.splitOnPPrepend_nil_right, ih]
    simp only [beq_iff_eq]

/-- A part without the separating character is cut out again. -/
theorem mem_splitOn_intercalate (hpart : part ∈ parts) (hsep : sep ∉ part) :
    part ∈ ([sep].intercalate parts).splitOn sep := by
  induction parts with
  | nil => cases hpart
  | cons first parts ih =>
    by_cases hnil : parts = []
    · subst hnil
      cases List.mem_singleton.1 hpart
      rw [List.intercalate_singleton, List.splitOn_eq_singleton hsep]
      exact List.mem_singleton.2 rfl
    · rw [List.intercalate_cons_of_ne_nil hnil, List.append_assoc, List.singleton_append,
        List.splitOn_append_cons_self]
      rcases List.mem_cons.1 hpart with rfl | hpart
      · rw [List.splitOn_eq_singleton hsep]
        exact List.mem_append_left _ (List.mem_singleton.2 rfl)
      · exact List.mem_append_right _ (ih hpart)

end Assay.Text
