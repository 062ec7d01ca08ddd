import Assay.Text.Abridged

/-!
The limited form of a text: it is never too long, what it begins with is not lost, and abridging a
text gives it.
-/

namespace Assay.Text

/-- The limited form of a text. One of at most 1024 characters is left as it is; of a longer one
the first 1021 characters are left, and three points behind them. -/
inductive Limited : String → String → Prop where
  | whole (s : String) (hlength : s.length ≤ 1024) : Limited s s
  | cut (start rest : List Char) (hstart : start.length = 1021) (hrest : 3 < rest.length) :
      Limited (String.ofList (start ++ rest)) (String.ofList start ++ "...")

variable {s t u : String} {start : List Char}

theorem limited_abridge (s : String) : Limited s (abridge s) := by
  unfold abridge
  split
  · next hshort => exact .whole s hshort
  · next hlong =>
    have hlength : s.toList.length = s.length := String.length_toList
    simp only [messageLimit] at hlong ⊢
    have hcut : Limited (String.ofList (s.toList.take 1021 ++ s.toList.drop 1021))
        (String.ofList (s.toList.take 1021) ++ "...") := by
      apply Limited.cut
      · rw [List.length_take]
        omega
      · rw [List.length_drop]
        omega
    rwa [List.take_append_drop, String.ofList_toList] at hcut

namespace Limited

theorem abridge_eq (h : Limited s t) : abridge s = t := by
  cases h with
  | whole _ hlength => exact if_pos hlength
  | cut start rest hstart hrest =>
    have hlong : ¬ (String.ofList (start ++ rest)).length ≤ messageLimit := by
      rw [String.length_ofList, List.length_append, hstart, messageLimit]
      omega
    have htake : (String.ofList (start ++ rest)).toList.take (messageLimit - 3) = start := by
      rw [String.toList_ofList]
      exact List.take_left' hstart
    rw [abridge, if_neg hlong, htake]

theorem unique (h : Limited s t) (h' : Limited s u) : t = u :=
  h.abridge_eq.symm.trans h'.abridge_eq

theorem length_le (h : Limited s t) : t.length ≤ 1024 := by
  cases h with
  | whole _ hlength => exact hlength
  | cut start rest hstart hrest =>
    have hpoints : "...".length = 3 := rfl
    have hlength : (String.ofList start ++ "...").length = 1021 + 3 := by
      rw [String.length_append, String.length_ofList, hstart, hpoints]
    omega

theorem isPrefix (h : Limited s t) (hlength : start.length ≤ 1021) (hs : start <+: s.toList) :
    start <+: t.toList := by
  cases h with
  | whole => exact hs
  | cut kept rest hkept hrest =>
    rw [String.toList_ofList] at hs
    rw [String.toList_append, String.toList_ofList]
    have hlonger : start.length ≤ kept.length := by omega
    exact (List.prefix_of_prefix_length_le hs (List.prefix_append kept rest) hlonger).trans
      (List.prefix_append _ _)

end Limited

end Assay.Text
