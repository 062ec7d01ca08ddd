import Assay.Runner.Capture

/-!
It does not matter in which pieces an output comes: its first bytes are kept, and it is known
whether there were more.
-/

namespace Assay.Runner.Capture

variable (limit : Nat) (pieces : List (List UInt8))

theorem readUpTo_eq : (readUpTo limit pieces).1 = pieces.flatten.take limit ∧
    (readUpTo limit pieces).2.flatten = pieces.flatten.drop limit := by
  induction pieces generalizing limit with
  | nil => exact ⟨List.take_nil.symm, List.drop_nil.symm⟩
  | cons piece rest ih =>
    rw [readUpTo, List.flatten_cons, List.take_append, List.drop_append]
    split
    next hle =>
      -- the piece is read to its end, and the rest of the limit is for the other pieces
      obtain ⟨hkept, hleft⟩ := ih (limit - piece.length)
      rw [List.take_of_length_le hle, List.drop_of_length_le hle, List.nil_append]
      exact ⟨congrArg (piece ++ ·) hkept, hleft⟩
    next hlt =>
      have hfull : limit - piece.length = 0 := by omega
      rw [hfull, List.take_zero, List.append_nil, List.drop_zero]
      exact ⟨rfl, List.flatten_cons⟩

theorem drain_eq : drain pieces = pieces.flatten.length := by
  have hfrom : ∀ sum, pieces.foldl (fun sum piece => sum + piece.length) sum =
      sum + pieces.flatten.length := by
    induction pieces with
    | nil => exact fun _ => rfl
    | cons piece rest ih =>
      intro sum
      rw [List.foldl_cons, ih, List.flatten_cons, List.length_append, Nat.add_assoc]
  rw [drain, hfrom, Nat.zero_add]

theorem collect_eq : collect limit pieces =
    ⟨pieces.flatten.take limit, decide (limit < pieces.flatten.length)⟩ := by
  obtain ⟨hkept, hleft⟩ := readUpTo_eq limit pieces
  have hdropped : 0 < drain (readUpTo limit pieces).2 ↔ limit < pieces.flatten.length := by
    rw [drain_eq, hleft, List.length_drop]
    omega
  unfold collect
  dsimp only
  rw [hkept, decide_eq_decide.2 hdropped]

/-- An output in one piece. -/
theorem collect_singleton (bytes : List UInt8) :
    collect limit [bytes] = ⟨bytes.take limit, decide (limit < bytes.length)⟩ := by
  rw [collect_eq, List.flatten_singleton]

end Assay.Runner.Capture
