import Assay.Judge.Difference
import Assay.Number.Rounding
import Assay.Proofs.Text.Abridged
import Assay.Proofs.Text.Lines
import Mathlib.Data.Nat.Digits.Defs

/-!
What the message on a wrong output says: the first row in which it differs from the expected one,
and how. Two texts that differ have such a row, and it is the same row in either order of the two.
-/

namespace Assay.Judge

open Text (Limited quote rows)

/-- How two lists of rows, the expected one first, go on behind the rows in which they agree. -/
inductive Differ : List String → List String → Difference → Prop where
  | row (common : List String) (e f : String) (es fs : List String) : e ≠ f →
      Differ (common ++ e :: es) (common ++ f :: fs) (.row (common.length + 1) e f)
  | outputEnds (common : List String) (e : String) (es : List String) :
      Differ (common ++ e :: es) common (.outputEnds (common.length + 1) e)
  | outputGoesOn (common : List String) (f : String) (fs : List String) :
      Differ common (common ++ f :: fs) (.outputGoesOn (common.length + 1) f)

/-- What is to be said of a difference, at full length. -/
inductive Says : Difference → String → Prop where
  | row (number : Nat) (expected found : String) : Says (.row number expected found)
      s!"line {number}: expected {quote expected}, found {quote found}"
  | outputEnds (number : Nat) (expected : String) : Says (.outputEnds number expected)
      s!"line {number}: expected {quote expected}, found end of output"
  | outputGoesOn (number : Nat) (found : String) : Says (.outputGoesOn number found)
      s!"line {number}: expected end of output, found {quote found}"

namespace Difference

/-- The number of the row in which two texts first differ. -/
def number : Difference → Nat
  | .row number _ _ => number
  | .outputEnds number _ => number
  | .outputGoesOn number _ => number

/-- The same difference, seen from the other text. -/
def swap : Difference → Difference
  | .row number expected found => .row number found expected
  | .outputEnds number expected => .outputGoesOn number expected
  | .outputGoesOn number found => .outputEnds number found

@[simp] theorem number_swap (d : Difference) : d.swap.number = d.number := by
  cases d <;> rfl

/-- How every message begins. -/
def opening (number : Nat) : String := s!"line {number}: expected "

theorem line_prefix_opening (number : Nat) : "line ".toList <+: (opening number).toList := by
  simp only [opening, toString, String.append_assoc, String.toList_append]
  exact List.prefix_append _ _

theorem length_opening_le {number : Nat} (h : number < 2 ^ 31) : (opening number).length ≤ 26 := by
  have hdigits : number.repr.length ≤ 10 := Nat.repr_length number 10 (by decide) (by omega)
  have hlength : (opening number).length = 5 + number.repr.length + 11 := by
    simp only [opening, toString, String.length_append]
    rfl
  omega

end Difference

namespace Says

variable {d : Difference} {text message : String}

theorem of_message (d : Difference) : Says d d.message := by
  cases d with
  | row number expected found => exact .row number expected found
  | outputEnds number expected => exact .outputEnds number expected
  | outputGoesOn number found => exact .outputGoesOn number found

/-- What is said of a difference names its row before all else. -/
theorem opening_prefix (h : Says d text) :
    (Difference.opening d.number).toList <+: text.toList := by
  have hword (found : String) :
      ": expected end of output, found " ++ found =
        ": expected " ++ ("end of output, found " ++ found) := by
    rw [← String.append_assoc]
    rfl
  cases h <;>
    simp only [Difference.opening, Difference.number, toString, String.append_assoc, hword,
      String.toList_append, List.prefix_append_right_inj, List.prefix_append]

/-- The row number is not lost when what is said is too long. -/
theorem opening_prefix_limited (h : Says d text) (hlimited : Limited text message)
    (hnumber : d.number < 2 ^ 31) :
    (Difference.opening d.number).toList <+: message.toList := by
  have hlength := Difference.length_opening_le hnumber
  apply hlimited.isPrefix _ h.opening_prefix
  rw [String.length_toList]
  omega

end Says

section Rows

variable {es fs : List String} {d : Difference}

/-- Rows in which the texts agree are passed one by one. -/
theorem firstDifference_append (number : Nat) (common es fs : List String) :
    firstDifference number (common ++ es) (common ++ fs) =
      firstDifference (number + common.length) es fs := by
  induction common generalizing number with
  | nil => rfl
  | cons row common ih =>
    rw [List.cons_append, List.cons_append, firstDifference, if_pos rfl, ih, List.length_cons]
    congr 1
    omega

theorem Differ.firstDifference_eq (h : Differ es fs d) : firstDifference 1 es fs = some d := by
  cases h with
  | row common e f es fs hne =>
    rw [firstDifference_append, firstDifference, if_neg hne, Nat.add_comm]
  | outputEnds _ e es =>
    have happend := firstDifference_append 1 fs (e :: es) []
    rw [List.append_nil] at happend
    rw [happend, firstDifference, Nat.add_comm]
  | outputGoesOn _ f fs =>
    have happend := firstDifference_append 1 es [] (f :: fs)
    rw [List.append_nil] at happend
    rw [happend, firstDifference, Nat.add_comm]

/-- Two lists that are not the same agree up to some place. -/
theorem exists_common (h : es ≠ fs) : ∃ common es' fs', es = common ++ es' ∧ fs = common ++ fs' ∧
    es'.head? ≠ fs'.head? := by
  induction es generalizing fs with
  | nil =>
    obtain ⟨f, fs, rfl⟩ := List.exists_cons_of_ne_nil h.symm
    exact ⟨[], [], f :: fs, rfl, rfl, by simp⟩
  | cons e es ih =>
    cases fs with
    | nil => exact ⟨[], e :: es, [], rfl, rfl, by simp⟩
    | cons f fs =>
      by_cases hrow : e = f
      · subst hrow
        have hrest : es ≠ fs := fun heq => h (congrArg (e :: ·) heq)
        obtain ⟨common, es', fs', rfl, rfl, hhead⟩ := ih hrest
        exact ⟨e :: common, es', fs', rfl, rfl, hhead⟩
      · exact ⟨[], e :: es, f :: fs, rfl, rfl, by simpa using hrow⟩

theorem exists_differ (h : es ≠ fs) : ∃ d, Differ es fs d := by
  obtain ⟨common, es', fs', rfl, rfl, hhead⟩ := exists_common h
  cases es' with
  | nil =>
    cases fs' with
    | nil => exact absurd rfl hhead
    | cons f fs =>
      rw [List.append_nil]
      exact ⟨_, .outputGoesOn common f fs⟩
  | cons e es =>
    cases fs' with
    | nil =>
      rw [List.append_nil]
      exact ⟨_, .outputEnds common e es⟩
    | cons f fs =>
      have hrow : e ≠ f := by simpa using hhead
      exact ⟨_, .row common e f es fs hrow⟩

theorem Differ.iff_eq (h : Differ es fs d) (d' : Difference) : Differ es fs d' ↔ d' = d := by
  constructor
  · intro h'
    have hsame : some d' = some d := h'.firstDifference_eq.symm.trans h.firstDifference_eq
    exact Option.some.inj hsame
  · rintro rfl
    exact h

theorem Differ.swap (h : Differ es fs d) : Differ fs es d.swap := by
  cases h with
  | row common e f es fs hne => exact .row common f e fs es hne.symm
  | outputEnds _ e es => exact .outputGoesOn fs e es
  | outputGoesOn _ f fs => exact .outputEnds es f fs

theorem Differ.number_le (h : Differ es fs d) : d.number ≤ max es.length fs.length := by
  cases h <;> simp only [Difference.number, List.length_append, List.length_cons] <;> omega

end Rows

theorem compare_of_differ {output expected : String} {d : Difference} (hne : output ≠ expected)
    (h : Differ (rows expected) (rows output) d) : ∃ text message,
      Says d text ∧ Limited text message ∧ compare output expected = .failed (some message) := by
  refine ⟨d.message, Text.abridge d.message, .of_message d, Text.limited_abridge _, ?_⟩
  rw [compare, if_neg hne, differenceMessage, h.firstDifference_eq]

/-- An output other than the expected one fails with a message that tells, at its very beginning,
the number of the first row in which the two differ, and then how they differ there. There is
exactly one such row and one way to differ in it, so there is always something to tell; in the other
order of the two texts it is the same row. -/
theorem compare_tells_first_difference (output expected : String)
    (houtput : (rows output).length < 2 ^ 31) (hexpected : (rows expected).length < 2 ^ 31) :
    (output = expected → compare output expected = .passed) ∧
      (output ≠ expected → ∃ d text message,
        (∀ d', Differ (rows expected) (rows output) d' ↔ d' = d) ∧
        Says d text ∧ Limited text message ∧
        compare output expected = .failed (some message) ∧
        message.length ≤ 1024 ∧
        (s!"line {d.number}: expected ").toList <+: message.toList ∧
        message ≠ "output differs from the expected output" ∧
        ∃ d' text' message', Differ (rows output) (rows expected) d' ∧ d'.number = d.number ∧
          Says d' text' ∧ Limited text' message' ∧
          compare expected output = .failed (some message')) := by
  refine ⟨fun heq => if_pos heq, fun hne => ?_⟩
  have hrows : rows expected ≠ rows output := fun heq => hne (Text.rows_injective heq).symm
  obtain ⟨d, hd⟩ := exists_differ hrows
  obtain ⟨text, message, hsays, hlimited, hcompare⟩ := compare_of_differ hne hd
  obtain ⟨text', message', hsays', hlimited', hcompare'⟩ := compare_of_differ hne.symm hd.swap
  have hnumber : d.number < 2 ^ 31 := by
    have hle := hd.number_le
    omega
  have hopening := hsays.opening_prefix_limited hlimited hnumber
  refine ⟨d, text, message, hd.iff_eq, hsays, hlimited, hcompare, hlimited.length_le, hopening, ?_,
    d.swap, text', message', hd.swap, d.number_swap, hsays', hlimited', hcompare'⟩
  rintro rfl
  have hline : "line ".toList <+: "output differs from the expected output".toList :=
    (Difference.line_prefix_opening d.number).trans hopening
  exact absurd hline (by decide)

/-- A second row with other characters in it, and a missing newline at the end. -/
theorem compare_tells_first_difference_second_row :
    ((rows "n\na\t").length < 2 ^ 31 ∧ (rows "n\n\"b\\").length < 2 ^ 31 ∧
      "n\na\t" ≠ "n\n\"b\\" ∧
      compare "n\na\t" "n\n\"b\\" =
        .failed (some "line 2: expected \"\\\"b\\\\\", found \"a\\t\"")) ∧
    (rows "a").length < 2 ^ 31 ∧ (rows "a\n").length < 2 ^ 31 ∧ "a" ≠ "a\n" ∧
      compare "a" "a\n" = .failed (some "line 2: expected \"\", found end of output") := by
  constructor
  · have hrows : (rows "n\na\t").length < 2 ^ 31 := by decide
    have hrows' : (rows "n\n\"b\\").length < 2 ^ 31 := by decide
    have hne : "n\na\t" ≠ "n\n\"b\\" := by decide
    obtain ⟨d, text, message, hd, hsays, hlimited, hcompare, -⟩ :=
      (compare_tells_first_difference "n\na\t" "n\n\"b\\" hrows hrows').2 hne
    have hrow : Differ (rows "n\n\"b\\") (rows "n\na\t") (.row 2 "\"b\\" "a\t") :=
      .row ["n"] "\"b\\" "a\t" [] [] (by decide)
    rw [← (hd _).1 hrow] at hsays
    cases hsays
    rw [← hlimited.abridge_eq] at hcompare
    refine ⟨hrows, hrows', hne, hcompare.trans ?_⟩
    decide +kernel
  · have hrows : (rows "a").length < 2 ^ 31 := by decide
    have hrows' : (rows "a\n").length < 2 ^ 31 := by decide
    have hne : "a" ≠ "a\n" := by decide
    obtain ⟨d, text, message, hd, hsays, hlimited, hcompare, -⟩ :=
      (compare_tells_first_difference "a" "a\n" hrows hrows').2 hne
    have hends : Differ (rows "a\n") (rows "a") (.outputEnds 2 "") := .outputEnds ["a"] "" []
    rw [← (hd _).1 hends] at hsays
    cases hsays
    rw [← hlimited.abridge_eq] at hcompare
    exact ⟨hrows, hrows', hne, hcompare⟩

end Assay.Judge
