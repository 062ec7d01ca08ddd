import Assay.Chain.Pieces
import Assay.Proofs.Text.Blank

/-!
Cutting a source into its pieces. Joined by points the uncut pieces are the source again, and
what is dropped at the end is white space and points.
-/

namespace Assay.Chain

open Text

theorem cutFrom_ne_nil (depth : Int) (pending cs : List Char) : cutFrom depth pending cs ≠ [] := by
  induction cs generalizing depth pending with
  | nil => exact List.cons_ne_nil _ _
  | cons c cs ih =>
    rw [cutFrom]
    split
    next => exact List.cons_ne_nil _ _
    next => exact ih _ _

theorem intercalate_cutFrom (depth : Int) (pending cs : List Char) :
    ['.'].intercalate (cutFrom depth pending cs) = pending.reverse ++ cs := by
  induction cs generalizing depth pending with
  | nil => rw [cutFrom, List.intercalate_singleton, List.append_nil]
  | cons c cs ih =>
    rw [cutFrom]
    split
    next h =>
      rw [List.intercalate_cons_of_ne_nil (cutFrom_ne_nil _ _ _), ih, h.1, List.append_assoc]
      rfl
    next =>
      rw [ih, List.reverse_cons, List.append_assoc]
      rfl

/-- Joined by points, the uncut pieces are the source again. -/
theorem intercalate_cut (source : List Char) : ['.'].intercalate (cut source) = source :=
  intercalate_cutFrom 0 [] source

/-- No point of the text separates, and no parenthesis changes the depth. -/
def Flat (depth : Int) (cs : List Char) : Prop :=
  ∀ c ∈ cs, c ≠ '(' ∧ c ≠ ')' ∧ (c = '.' → depth ≠ 0)

theorem Flat.cutFrom_append {depth : Int} {part : List Char} (h : Flat depth part)
    (pending rest : List Char) :
    cutFrom depth pending (part ++ rest) = cutFrom depth (part.reverse ++ pending) rest := by
  induction part generalizing pending with
  | nil => rfl
  | cons c part ih =>
    obtain ⟨hopen, hclose, hpoint⟩ := h c List.mem_cons_self
    have hdepth : depthAfter depth c = depth := by rw [depthAfter, if_neg hopen, if_neg hclose]
    rw [List.cons_append, cutFrom, if_neg fun hc => hpoint hc.1 hc.2, hdepth,
      ih fun d hd => h d (List.mem_cons_of_mem c hd), List.reverse_cons, List.append_assoc,
      List.singleton_append]

/-- Points and blanks after the last piece leave empty pieces only. -/
theorem map_trim_cutFrom_ending (pending : List Char) {ending : List Char}
    (h : ∀ c ∈ ending, c = '.' ∨ isBlank c = true) :
    ∃ k, (cutFrom 0 pending ending).map trim = trim pending.reverse :: List.replicate k [] := by
  induction ending generalizing pending with
  | nil => exact ⟨0, rfl⟩
  | cons c ending ih =>
    have hrest := fun pending => ih pending fun d hd => h d (List.mem_cons_of_mem c hd)
    rw [cutFrom]
    split
    next =>
      obtain ⟨k, hk⟩ := hrest []
      exact ⟨k + 1, by rw [List.map_cons, hk]; rfl⟩
    next hpoint =>
      have hblank : isBlank c = true := (h c List.mem_cons_self).resolve_left fun hc =>
        hpoint ⟨hc, rfl⟩
      have hdepth : depthAfter 0 c = 0 := by
        unfold depthAfter
        rw [if_neg, if_neg]
        · rintro rfl
          exact absurd hblank (by decide)
        · rintro rfl
          exact absurd hblank (by decide)
      obtain ⟨k, hk⟩ := hrest (c :: pending)
      refine ⟨k, ?_⟩
      rw [hdepth, hk, List.reverse_cons,
        trim_append_blanks _ ⟨[c], fun d hd => List.mem_singleton.1 hd ▸ hblank⟩]

theorem dropEmptyEnd_append_replicate (parts : List (List Char)) (k : Nat) :
    dropEmptyEnd (parts ++ List.replicate k []) = dropEmptyEnd parts := by
  unfold dropEmptyEnd
  rw [List.reverse_append, List.reverse_replicate, List.dropWhile_append_of_pos]
  intro part hpart
  rw [List.eq_of_mem_replicate hpart]
  rfl

theorem dropEmptyEnd_of_getLast? {parts : List (List Char)}
    (h : ∀ part ∈ parts.getLast?, part ≠ []) : dropEmptyEnd parts = parts := by
  unfold dropEmptyEnd
  rw [dropWhile_of_head?, List.reverse_reverse]
  intro part hpart
  rw [List.head?_reverse] at hpart
  simpa using h part hpart

/-- What is dropped is a number of empty pieces. -/
theorem exists_dropEmptyEnd (parts : List (List Char)) :
    ∃ k, parts = dropEmptyEnd parts ++ List.replicate k [] := by
  have hrun : ∀ part ∈ parts.reverse.takeWhile List.isEmpty, part = [] := fun part hpart =>
    List.isEmpty_iff.1 (mem_takeWhile hpart)
  have hsplit := congrArg List.reverse
    (List.takeWhile_append_dropWhile (p := List.isEmpty) (l := parts.reverse))
  rw [List.reverse_append, List.reverse_reverse, List.eq_replicate_of_mem hrun,
    List.reverse_replicate] at hsplit
  exact ⟨_, hsplit.symm⟩

end Assay.Chain
