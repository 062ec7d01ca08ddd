import Assay.Text.Blank
import Assay.Text.DecimalDigit
import Assay.Text.WordChar

/-!
Trimming, and how blanks, digits and the characters of names exclude each other.
-/

namespace Assay.Text

/-- A run of white space. -/
abbrev Blanks := {cs : List Char // ∀ c ∈ cs, isBlank c = true}

/-- No blank at either end. -/
def Trimmed (cs : List Char) : Prop :=
  (∀ c ∈ cs.head?, isBlank c = false) ∧ ∀ c ∈ cs.getLast?, isBlank c = false

instance (cs : List Char) : Decidable (Trimmed cs) :=
  decidable_of_iff (cs.head?.all (fun c => !isBlank c) = true ∧
    cs.getLast?.all (fun c => !isBlank c) = true) (by simp [Trimmed, Option.all_eq_true])

section Runs

variable {α : Type} {p : α → Bool} {run rest : List α}

theorem head?_dropWhile_false (p : α → Bool) (as : List α) :
    ∀ a ∈ (as.dropWhile p).head?, p a = false := by
  intro a ha
  have h := List.head?_dropWhile_not p as
  rwa [Option.mem_def.1 ha] at h

theorem dropWhile_of_head? (hrest : ∀ a ∈ rest.head?, p a = false) : rest.dropWhile p = rest := by
  cases rest with
  | nil => rfl
  | cons a rest => simp [hrest a rfl]

theorem takeWhile_run (hrun : ∀ a ∈ run, p a = true) (hrest : ∀ a ∈ rest.head?, p a = false) :
    (run ++ rest).takeWhile p = run := by
  rw [List.takeWhile_append_of_pos hrun]
  cases rest with
  | nil => simp
  | cons a rest => simp [hrest a rfl]

theorem dropWhile_run (hrun : ∀ a ∈ run, p a = true) (hrest : ∀ a ∈ rest.head?, p a = false) :
    (run ++ rest).dropWhile p = rest := by
  rw [List.dropWhile_append_of_pos hrun, dropWhile_of_head? hrest]

theorem mem_takeWhile {a : α} {as : List α} (h : a ∈ as.takeWhile p) : p a = true :=
  List.all_eq_true.1 List.all_takeWhile a h

end Runs

theorem head?_trimLeft (cs : List Char) : ∀ c ∈ (trimLeft cs).head?, isBlank c = false :=
  head?_dropWhile_false isBlank cs

theorem getLast?_trimRight (cs : List Char) : ∀ c ∈ (trimRight cs).getLast?, isBlank c = false := by
  unfold trimRight
  rw [List.getLast?_reverse]
  exact head?_dropWhile_false isBlank cs.reverse

/-- Trimming on the left takes blanks away and nothing else. -/
theorem exists_trimLeft (cs : List Char) : ∃ blanks : Blanks, cs = blanks ++ trimLeft cs :=
  ⟨⟨cs.takeWhile isBlank, fun _ h => mem_takeWhile h⟩, List.takeWhile_append_dropWhile.symm⟩

/-- Trimming on the right takes blanks away and nothing else. -/
theorem exists_trimRight (cs : List Char) : ∃ blanks : Blanks, cs = trimRight cs ++ blanks := by
  obtain ⟨⟨blanks, hblanks⟩, h⟩ := exists_trimLeft cs.reverse
  refine ⟨⟨blanks.reverse, fun c hc => hblanks c (List.mem_reverse.1 hc)⟩, ?_⟩
  have h' := congrArg List.reverse h
  rwa [List.reverse_reverse, List.reverse_append] at h'

theorem exists_trim (cs : List Char) :
    ∃ before after : Blanks, cs = before ++ trim cs ++ after := by
  obtain ⟨before, hbefore⟩ := exists_trimLeft cs
  obtain ⟨after, hafter⟩ := exists_trimRight (trimLeft cs)
  refine ⟨before, after, ?_⟩
  rw [List.append_assoc, trim, ← hafter]
  exact hbefore

theorem trimmed_trim (cs : List Char) : Trimmed (trim cs) := by
  refine ⟨?_, getLast?_trimRight _⟩
  obtain ⟨after, h⟩ := exists_trimRight (trimLeft cs)
  intro c hc
  refine head?_trimLeft cs c ?_
  rw [h]
  rw [Option.mem_def] at hc ⊢
  rw [List.head?_append, show trimRight (trimLeft cs) = trim cs from rfl, hc]
  rfl

theorem trimRight_of_getLast? {cs : List Char} (h : ∀ c ∈ cs.getLast?, isBlank c = false) :
    trimRight cs = cs := by
  unfold trimRight
  rw [dropWhile_of_head? (by rw [List.head?_reverse]; exact h), List.reverse_reverse]

theorem Trimmed.trim_eq {cs : List Char} (h : Trimmed cs) : trim cs = cs := by
  have hleft : trimLeft cs = cs := dropWhile_of_head? h.1
  rw [trim, hleft, trimRight_of_getLast? h.2]

theorem trim_blanks_append (before : Blanks) (cs : List Char) : trim (before ++ cs) = trim cs := by
  unfold trim trimLeft
  rw [List.dropWhile_append_of_pos before.2]

theorem trimRight_append_blanks (cs : List Char) (after : Blanks) :
    trimRight (cs ++ after) = trimRight cs := by
  unfold trimRight
  rw [List.reverse_append,
    List.dropWhile_append_of_pos fun c hc => after.2 c (List.mem_reverse.1 hc)]

@[simp] theorem trim_blanks (blanks : Blanks) : trim blanks.1 = [] := by
  have h := trim_blanks_append blanks []
  rwa [List.append_nil, trim_nil] at h

theorem trim_append_blanks (cs : List Char) (after : Blanks) : trim (cs ++ after) = trim cs := by
  unfold trim trimLeft
  rw [List.dropWhile_append]
  split
  next hempty =>
    rw [List.isEmpty_iff.1 hempty]
    exact trim_blanks after
  next => exact trimRight_append_blanks _ after

/-- Trimming does not see the blanks around a text. -/
theorem trim_between (before after : Blanks) (cs : List Char) :
    trim (before ++ cs ++ after) = trim cs := by
  rw [trim_append_blanks, trim_blanks_append]

theorem trim_eq_nil_iff {cs : List Char} : trim cs = [] ↔ ∀ c ∈ cs, isBlank c = true := by
  constructor
  · intro h
    obtain ⟨before, after, hcs⟩ := exists_trim cs
    intro c hc
    rw [hcs, h, List.append_nil, List.mem_append] at hc
    exact hc.elim (before.2 c) (after.2 c)
  · exact fun h => trim_blanks ⟨cs, h⟩

/-- A text that does not end in a blank is trimmed on the left only. -/
theorem exists_trim_of_getLast? {cs : List Char} (hne : cs ≠ [])
    (h : ∀ c ∈ cs.getLast?, isBlank c = false) :
    trim cs ≠ [] ∧ ∃ before : Blanks, cs = before ++ trim cs := by
  obtain ⟨before, hbefore⟩ := exists_trimLeft cs
  have hleft : trimLeft cs ≠ [] := by
    intro hnil
    rw [hnil, List.append_nil] at hbefore
    have hlast := h _ (List.getLast?_eq_some_getLast hne)
    rw [before.2 _ (hbefore ▸ List.getLast_mem hne)] at hlast
    cases hlast
  have hsome := List.getLast?_eq_some_getLast hleft
  have hright : trim cs = trimLeft cs := by
    refine trimRight_of_getLast? fun c hc => h c ?_
    rw [hbefore, List.getLast?_append, hsome, Option.some_or, ← hsome]
    exact hc
  rw [hright]
  exact ⟨hleft, before, hbefore⟩

/-- The code points of the blanks. -/
def blankCodes : List Nat :=
  [9, 10, 11, 12, 13, 0x20, 0x85, 0xA0, 0x1680, 0x2000, 0x2001, 0x2002, 0x2003, 0x2004, 0x2005,
    0x2006, 0x2007, 0x2008, 0x2009, 0x200A, 0x2028, 0x2029, 0x202F, 0x205F, 0x3000]

/-- The characters that stand around names and numbers. -/
def marks : List Char := ['(', ')', ',', '=', '.', '-']

-- The tables are too large for `decide` alone, so all that is looked up in them is checked at once.
theorem tables_at :
    (∀ n ∈ blankCodes,
      isWordChar (Char.ofNat n) = false ∧ isDecimalDigit (Char.ofNat n) = false) ∧
    (∀ n < 123, isNameStart (Char.ofNat n) = true →
      isWordChar (Char.ofNat n) = true ∧ isDecimalDigit (Char.ofNat n) = false) ∧
    (marks.all fun c => !isWordChar c && !isDecimalDigit c) = true := by decide +kernel

/-- What holds of the listed characters holds of every blank. -/
theorem forall_blank {P : Char → Prop} (h : ∀ n ∈ blankCodes, P (Char.ofNat n)) {c : Char}
    (hc : isBlank c = true) : P c := by
  have hmem : c.toNat ∈ blankCodes := by
    simp only [isBlank, Bool.or_eq_true, Bool.and_eq_true, decide_eq_true_eq, beq_iff_eq] at hc
    simp only [blankCodes, List.mem_cons, List.not_mem_nil, or_false]
    omega
  have hP := h c.toNat hmem
  rwa [Char.ofNat_toNat] at hP

theorem isWordChar_of_isBlank {c : Char} (h : isBlank c = true) : isWordChar c = false :=
  forall_blank (P := fun c => isWordChar c = false) (fun n hn => (tables_at.1 n hn).1) h

theorem isDecimalDigit_of_isBlank {c : Char} (h : isBlank c = true) : isDecimalDigit c = false :=
  forall_blank (P := fun c => isDecimalDigit c = false) (fun n hn => (tables_at.1 n hn).2) h

theorem isBlank_of_isWordChar {c : Char} (h : isWordChar c = true) : isBlank c = false := by
  cases hblank : isBlank c with
  | false => rfl
  | true =>
    rw [isWordChar_of_isBlank hblank] at h
    cases h

theorem isBlank_of_isDecimalDigit {c : Char} (h : isDecimalDigit c = true) : isBlank c = false := by
  cases hblank : isBlank c with
  | false => rfl
  | true =>
    rw [isDecimalDigit_of_isBlank hblank] at h
    cases h

/-- A digit with a value is a digit. -/
theorem isDecimalDigit_of_isDigit {c : Char} (h : c.isDigit = true) : isDecimalDigit c = true := by
  have hcodes : ∀ n < 10, isDecimalDigit (Char.ofNat (48 + n)) = true := by decide
  have hrange : 48 ≤ c.toNat ∧ c.toNat ≤ 57 := Char.isDigit_iff_toNat.1 h
  have hc := hcodes (c.toNat - 48) (by omega)
  rwa [Nat.add_sub_cancel' hrange.1, Char.ofNat_toNat] at hc

theorem toNat_lt_of_isAlpha {c : Char} (h : c.isAlpha = true) : c.toNat < 123 := by
  have hcase : c.isUpper = true ∨ c.isLower = true := (Bool.or_eq_true _ _).mp h
  rcases hcase with hupper | hlower
  · have hbound : c.toNat ≤ 90 := (of_decide_eq_true hupper).2
    omega
  · have hbound : c.toNat ≤ 122 := of_decide_eq_true ((Bool.and_eq_true _ _).mp hlower).2
    omega

/-- What holds of the ASCII characters that may begin a name holds of all that may. -/
theorem forall_isNameStart {P : Char → Prop}
    (h : ∀ n < 123, isNameStart (Char.ofNat n) = true → P (Char.ofNat n)) {c : Char}
    (hc : isNameStart c = true) : P c := by
  have hlt : c.toNat < 123 := by
    rw [isNameStart, Bool.or_eq_true, beq_iff_eq] at hc
    rcases hc with hc | rfl
    · exact toNat_lt_of_isAlpha hc
    · decide
  have hP := h c.toNat hlt
  rw [Char.ofNat_toNat] at hP
  exact hP hc

theorem isDecimalDigit_of_isNameStart {c : Char} (h : isNameStart c = true) :
    isDecimalDigit c = false :=
  forall_isNameStart (P := fun c => isDecimalDigit c = false)
    (fun n hn hstart => (tables_at.2.1 n hn hstart).2) h

theorem isWordChar_of_isNameStart {c : Char} (h : isNameStart c = true) : isWordChar c = true :=
  forall_isNameStart (P := fun c => isWordChar c = true)
    (fun n hn hstart => (tables_at.2.1 n hn hstart).1) h

section Marks

variable {c mark : Char}

theorem isWordChar_of_mem_marks (h : mark ∈ marks) : isWordChar mark = false := by
  have hmark := List.all_eq_true.1 tables_at.2.2 mark h
  rw [Bool.and_eq_true, Bool.not_eq_true', Bool.not_eq_true'] at hmark
  exact hmark.1

theorem isDecimalDigit_of_mem_marks (h : mark ∈ marks) : isDecimalDigit mark = false := by
  have hmark := List.all_eq_true.1 tables_at.2.2 mark h
  rw [Bool.and_eq_true, Bool.not_eq_true', Bool.not_eq_true'] at hmark
  exact hmark.2

theorem ne_mark_of_isWordChar (hc : isWordChar c = true) (h : mark ∈ marks) : c ≠ mark := by
  rintro rfl
  rw [isWordChar_of_mem_marks h] at hc
  cases hc

theorem ne_mark_of_isDecimalDigit (hc : isDecimalDigit c = true) (h : mark ∈ marks) :
    c ≠ mark := by
  rintro rfl
  rw [isDecimalDigit_of_mem_marks h] at hc
  cases hc

end Marks

theorem trimmed_of_forall {cs : List Char} (h : ∀ c ∈ cs, isBlank c = false) : Trimmed cs :=
  ⟨fun c hc => h c (List.mem_of_mem_head? hc), fun c hc => h c (List.mem_of_mem_getLast? hc)⟩

theorem trimmed_append {first middle last : List Char} (hfirst : first ≠ []) (hlast : last ≠ [])
    (h₁ : Trimmed first) (h₂ : Trimmed last) : Trimmed (first ++ (middle ++ last)) := by
  obtain ⟨c, cs, rfl⟩ := List.exists_cons_of_ne_nil hfirst
  refine ⟨h₁.1, ?_⟩
  have hsome := List.getLast?_eq_some_getLast hlast
  rw [← List.append_assoc, List.getLast?_append, hsome, Option.some_or, ← hsome]
  exact h₂.2

end Assay.Text
