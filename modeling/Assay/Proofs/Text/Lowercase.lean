import Assay.Proofs.Text.Blank
import Assay.Text.Lowercase

/-!
Lowering a text twice is lowering it once, and the ends of a text are blank after lowering exactly
if they were before.
-/

namespace Assay.Text

variable {c d : Char} {before cs : List Char}

/-- A character that lowering leaves as it is, wherever it stands. -/
def Lowered (c : Char) : Prop := c ≠ 'Σ' ∧ lowerChar c = [c]

theorem searchRun_eq_some {runs : Array CaseRun} {code : Nat} {run : CaseRun}
    {fuel low high : Nat} (h : searchRun runs code fuel low high = some run) :
    run ∈ runs.toList ∧ run.first ≤ code ∧ code ≤ run.last := by
  induction fuel generalizing low high with
  | zero => cases h
  | succ fuel ih =>
    simp only [searchRun] at h
    split at h
    next =>
      split at h
      next => cases h
      next found hfound =>
        split at h
        next => exact ih h
        next hfirst =>
          split at h
          next => exact ih h
          next hlast =>
            cases h
            exact ⟨Array.mem_toList_iff.2 (Array.mem_of_getElem? hfound), by omega, by omega⟩
    next => cases h

/-- The codes that a run gives images to. -/
def CaseRun.sources (run : CaseRun) : List Nat :=
  List.range' run.first ((run.last - run.first) / run.stride + 1) run.stride

def CaseRun.images (run : CaseRun) : List Nat :=
  List.range' run.image ((run.last - run.first) / run.stride + 1) run.stride

/-- The codes of the characters that the table changes. -/
def mapped : List Nat := caseRuns.toList.flatMap CaseRun.sources

/-- The codes of the characters that lowering brings into a text: the images of `İ` and of sigma,
and those of the table. -/
def images : List Nat := 0x69 :: 0x307 :: 0x3C2 :: 0x3C3 :: caseRuns.toList.flatMap CaseRun.images

/-- A set of codes as the number whose bits they are; such numbers are compared at once. -/
def bitmap (codes : List Nat) : Nat := codes.foldr (fun code bits => 2 ^ code ||| bits) 0

theorem testBit_bitmap (codes : List Nat) (n : Nat) :
    (bitmap codes).testBit n = decide (n ∈ codes) := by
  induction codes with
  | nil => simp [bitmap]
  | cons code codes ih =>
    change (2 ^ code ||| bitmap codes).testBit n = _
    rw [Nat.testBit_or, Nat.testBit_two_pow, ih, ← Bool.decide_or]
    simp [eq_comm]

theorem not_mem_of_bitmap {codes others : List Nat} (h : bitmap codes &&& bitmap others = 0)
    {n : Nat} (hn : n ∈ codes) : n ∉ others := by
  intro hother
  have hbit : (bitmap codes &&& bitmap others).testBit n = true := by
    rw [Nat.testBit_and, testBit_bitmap, testBit_bitmap]
    simp [hn, hother]
  rw [h] at hbit
  simp at hbit

theorem CaseRun.shift_mem {run : CaseRun} {code : Nat} (base : Nat) (hlast : code ≤ run.last)
    (hstride : (code - run.first) % run.stride = 0) :
    base + (code - run.first) ∈
      List.range' base ((run.last - run.first) / run.stride + 1) run.stride := by
  refine List.mem_range'.2 ⟨(code - run.first) / run.stride, ?_, ?_⟩
  · exact Nat.lt_succ_of_le (Nat.div_le_div_right (by omega))
  · rw [Nat.mul_div_cancel' (Nat.dvd_of_mod_eq_zero hstride)]

/-- The table leaves a character as it is, or gives it the image of a run. -/
theorem lowerChar_cases (c : Char) :
    (lowerChar c = [c] ∨ ∀ d ∈ lowerChar c, ∃ n ∈ images, d = Char.ofNat n) ∧
      (c ≠ 'İ' → c.toNat ∉ mapped → lowerChar c = [c]) := by
  by_cases hdotted : c = 'İ'
  · subst hdotted
    have hletter : ∃ n ∈ images, 'i' = Char.ofNat n := ⟨0x69, by simp [images], rfl⟩
    have hdot : ∃ n ∈ images, '\u0307' = Char.ofNat n := ⟨0x307, by simp [images], rfl⟩
    exact ⟨.inr (List.forall_mem_cons.2 ⟨hletter, List.forall_mem_singleton.2 hdot⟩),
      fun hne => absurd rfl hne⟩
  · simp only [lowerChar, beq_iff_eq, hdotted, if_false]
    cases hrun : searchRun caseRuns c.toNat 32 0 caseRuns.size with
    | none => exact ⟨.inl rfl, fun _ _ => rfl⟩
    | some run =>
      obtain ⟨hmem, hfirst, hlast⟩ := searchRun_eq_some hrun
      by_cases hstride : (c.toNat - run.first) % run.stride = 0
      · simp only [hstride, if_true]
        constructor
        · refine .inr (List.forall_mem_singleton.2 ⟨_, ?_, rfl⟩)
          have himage : run.image + (c.toNat - run.first) ∈
              caseRuns.toList.flatMap CaseRun.images :=
            List.mem_flatMap.2 ⟨run, hmem, CaseRun.shift_mem run.image hlast hstride⟩
          simp [images, himage]
        · intro _ hunmapped
          have hsource := CaseRun.shift_mem run.first hlast hstride
          rw [Nat.add_sub_cancel' hfirst] at hsource
          exact absurd (List.mem_flatMap.2 ⟨run, hmem, hsource⟩) hunmapped
      · simp [hstride]

/-- The table gives no image to an image or a blank; images are characters, and none of them is a
blank or one of the two that are not lowered by the table. -/
theorem images_apart : bitmap (images ++ blankCodes) &&& bitmap mapped = 0 ∧
    bitmap images &&& bitmap (0x130 :: 0x3A3 :: blankCodes) = 0 ∧
    (images.all fun n => decide n.isValidChar) = true := by decide +kernel

theorem toNat_mem_blankCodes (h : isBlank c = true) : c.toNat ∈ blankCodes := by
  have hcodes : ∀ n ∈ blankCodes, (Char.ofNat n).toNat ∈ blankCodes := by decide
  exact forall_blank (P := fun c => c.toNat ∈ blankCodes) hcodes h

/-- The images are lowered themselves, and none of them is a blank. -/
theorem lowered_image {n : Nat} (hn : n ∈ images) :
    Lowered (Char.ofNat n) ∧ isBlank (Char.ofNat n) = false := by
  have hvalid : n.isValidChar := of_decide_eq_true (List.all_eq_true.1 images_apart.2.2 n hn)
  have hcode : (Char.ofNat n).toNat = n := by
    rw [Char.ofNat, dif_pos hvalid]
    rfl
  generalize Char.ofNat n = c at hcode
  have hplain : c.toNat ∉ 0x130 :: 0x3A3 :: blankCodes :=
    not_mem_of_bitmap images_apart.2.1 (hcode.symm ▸ hn)
  have hunmapped : c.toNat ∉ mapped :=
    not_mem_of_bitmap images_apart.1 (List.mem_append_left _ (hcode.symm ▸ hn))
  refine ⟨⟨?_, (lowerChar_cases c).2 ?_ hunmapped⟩, ?_⟩
  · rintro rfl
    exact hplain (List.mem_cons_of_mem _ List.mem_cons_self)
  · rintro rfl
    exact hplain List.mem_cons_self
  · cases hblank : isBlank c with
    | false => rfl
    | true =>
      have hcodes := toNat_mem_blankCodes hblank
      exact absurd (List.mem_cons_of_mem _ (List.mem_cons_of_mem _ hcodes)) hplain

theorem lowered_of_mem_lowerChar (hc : c ≠ 'Σ') (hd : d ∈ lowerChar c) : Lowered d := by
  rcases (lowerChar_cases c).1 with hself | hall
  · rw [hself] at hd
    rw [List.mem_singleton.1 hd]
    exact ⟨hc, hself⟩
  · obtain ⟨n, hn, rfl⟩ := hall d hd
    exact (lowered_image hn).1

theorem lowerChar_of_isBlank (h : isBlank c = true) : lowerChar c = [c] := by
  have hcode := toNat_mem_blankCodes h
  refine (lowerChar_cases c).2 ?_ ?_
  · rintro rfl
    cases h
  · exact not_mem_of_bitmap images_apart.1 (List.mem_append_right _ hcode)

theorem isBlank_of_mem_lowerChar (hd : d ∈ lowerChar c) : isBlank d = isBlank c := by
  cases hblank : isBlank c with
  | true =>
    rw [lowerChar_of_isBlank hblank] at hd
    rw [List.mem_singleton.1 hd, hblank]
  | false =>
    rcases (lowerChar_cases c).1 with hself | hall
    · rw [hself] at hd
      rw [List.mem_singleton.1 hd, hblank]
    · obtain ⟨n, hn, rfl⟩ := hall d hd
      exact (lowered_image hn).2

theorem lowerChar_ne_nil (c : Char) : lowerChar c ≠ [] := by
  unfold lowerChar
  split
  · exact List.cons_ne_nil _ _
  · split
    · exact List.cons_ne_nil _ _
    · split <;> exact List.cons_ne_nil _ _

/-- What becomes of one character of a text. -/
theorem exists_image (before : List Char) (c : Char) (rest : List Char) :
    ∃ image, lowerFrom before (c :: rest) = image ++ lowerFrom (c :: before) rest ∧ image ≠ [] ∧
      ∀ d ∈ image, Lowered d ∧ isBlank d = isBlank c := by
  refine ⟨_, rfl, ?_⟩
  by_cases hsigma : c = 'Σ'
  · subst hsigma
    have hfinal : Lowered 'ς' ∧ isBlank 'ς' = isBlank 'Σ' :=
      lowered_image (n := 0x3C2) (by simp [images])
    have hinner : Lowered 'σ' ∧ isBlank 'σ' = isBlank 'Σ' :=
      lowered_image (n := 0x3C3) (by simp [images])
    simp only [beq_self_eq_true, if_true]
    split
    · exact ⟨List.cons_ne_nil _ _, List.forall_mem_singleton.2 hfinal⟩
    · exact ⟨List.cons_ne_nil _ _, List.forall_mem_singleton.2 hinner⟩
  · simp only [beq_iff_eq, hsigma, if_false]
    exact ⟨lowerChar_ne_nil c, fun d hd =>
      ⟨lowered_of_mem_lowerChar hsigma hd, isBlank_of_mem_lowerChar hd⟩⟩

theorem lowered_of_mem_lowerFrom (hd : d ∈ lowerFrom before cs) : Lowered d := by
  induction cs generalizing before with
  | nil => cases hd
  | cons c rest ih =>
    obtain ⟨image, hlower, -, himage⟩ := exists_image before c rest
    rw [hlower, List.mem_append] at hd
    rcases hd with hd | hd
    · exact (himage d hd).1
    · exact ih hd

theorem lowerFrom_of_lowered (h : ∀ c ∈ cs, Lowered c) : lowerFrom before cs = cs := by
  induction cs generalizing before with
  | nil => rfl
  | cons c rest ih =>
    obtain ⟨hsigma, hself⟩ := h c List.mem_cons_self
    have hrest : lowerFrom (c :: before) rest = rest :=
      ih fun d hd => h d (List.mem_cons_of_mem _ hd)
    simp [lowerFrom, hsigma, hself, hrest]

theorem lowercase_lowercase (s : String) : lowercase (lowercase s) = lowercase s := by
  have h : ∀ d ∈ lowerFrom [] s.toList, Lowered d := fun d hd => lowered_of_mem_lowerFrom hd
  simp only [lowercase, String.toList_ofList, lowerFrom_of_lowered h]

theorem isBlank_head?_lowerFrom (before cs : List Char) :
    (lowerFrom before cs).head?.map isBlank = cs.head?.map isBlank := by
  cases cs with
  | nil => rfl
  | cons c rest =>
    obtain ⟨image, hlower, hne, himage⟩ := exists_image before c rest
    obtain ⟨d, image, rfl⟩ := List.exists_cons_of_ne_nil hne
    rw [hlower]
    simpa using (himage d List.mem_cons_self).2

theorem isBlank_getLast?_lowerFrom (before cs : List Char) :
    (lowerFrom before cs).getLast?.map isBlank = cs.getLast?.map isBlank := by
  induction cs generalizing before with
  | nil => rfl
  | cons c rest ih =>
    obtain ⟨image, hlower, hne, himage⟩ := exists_image before c rest
    rw [hlower, List.getLast?_append, Option.map_or, ih]
    cases rest with
    | nil =>
      have hlast := List.getLast?_eq_some_getLast hne
      rw [hlast]
      simpa using (himage _ (List.getLast_mem hne)).2
    | cons c' rest =>
      rw [List.getLast?_cons_cons, List.getLast?_eq_some_getLast (List.cons_ne_nil c' rest)]
      rfl

theorem trimmed_iff_map : Trimmed cs ↔
    (∀ b ∈ cs.head?.map isBlank, b = false) ∧ ∀ b ∈ cs.getLast?.map isBlank, b = false := by
  simp [Trimmed]

/-- Lowering neither creates nor removes white space at the ends of a text. -/
theorem trimmed_lowerFrom : Trimmed (lowerFrom before cs) ↔ Trimmed cs := by
  rw [trimmed_iff_map, trimmed_iff_map, isBlank_head?_lowerFrom, isBlank_getLast?_lowerFrom]

end Assay.Text
