import Assay.Proofs.Text.Joined
import Assay.Text.Lines

/-!
What the lines of a text are, and that joining them with newlines gives the text back up to the
carriage returns of its line ends. Rows are cut at newlines alone and lose nothing.
-/

namespace Assay.Text

variable {c : Char} {cs line pending rest : List Char} {ls : List (List Char)}

/-- `ls` are the lines of `cs`: a line ends at the first newline, and a carriage return just before
that newline is not part of it. -/
inductive Lined : List Char → List (List Char) → Prop where
  | empty : Lined [] []
  | last (line : List Char) : line ≠ [] → '\n' ∉ line → Lined line [line]
  | newline (line rest : List Char) (ls : List (List Char)) : '\n' ∉ line →
      line.getLast? ≠ some '\r' → Lined rest ls → Lined (line ++ '\n' :: rest) (line :: ls)
  | returnNewline (line rest : List Char) (ls : List (List Char)) : '\n' ∉ line →
      Lined rest ls → Lined (line ++ '\r' :: '\n' :: rest) (line :: ls)

/-- A text with every `\r\n` replaced by `\n`. -/
def unifyEnds : List Char → List Char
  | [] => []
  | '\r' :: '\n' :: rest => '\n' :: unifyEnds rest
  | c :: rest => c :: unifyEnds rest

/-- No line end begins at `c`. -/
def Continues (c : Char) (rest : List Char) : Prop :=
  c ≠ '\n' ∧ (c = '\r' → rest.head? ≠ some '\n')

theorem linesFrom_cons (h : Continues c rest) :
    linesFrom pending (c :: rest) = linesFrom (c :: pending) rest := by
  obtain ⟨hnewline, hreturn⟩ := h
  rw [linesFrom]
  · rintro rest' rfl rfl
    exact hreturn rfl rfl
  · exact hnewline

theorem unifyEnds_cons (h : c = '\r' → rest.head? ≠ some '\n') :
    unifyEnds (c :: rest) = c :: unifyEnds rest := by
  rw [unifyEnds]
  rintro rest' rfl rfl
  exact h rfl rfl

/-- Inside a line that a text goes on from no line end begins. -/
theorem continues_of_line (hline : '\n' ∉ c :: line) (hend : rest.head? = some '\n' →
    (c :: line).getLast? ≠ some '\r') : Continues c (line ++ rest) := by
  refine ⟨fun h => hline (h ▸ List.mem_cons_self), ?_⟩
  rintro rfl hhead
  cases line with
  | nil => exact hend hhead rfl
  | cons d line =>
    have hd : d = '\n' := Option.some.inj hhead
    exact hline (hd ▸ List.mem_cons_of_mem _ List.mem_cons_self)

theorem getLast?_tail_ne {d : Char} (h : (c :: line).getLast? ≠ some d) :
    line.getLast? ≠ some d := by
  cases line with
  | nil => simp
  | cons e line => rwa [List.getLast?_cons_cons] at h

/-- The characters of a line are passed one by one. -/
theorem linesFrom_append (hline : '\n' ∉ line)
    (hend : rest.head? = some '\n' → line.getLast? ≠ some '\r') :
    linesFrom pending (line ++ rest) = linesFrom (line.reverse ++ pending) rest := by
  induction line generalizing pending with
  | nil => rfl
  | cons c line ih =>
    have htail : '\n' ∉ line := fun h => hline (List.mem_cons_of_mem c h)
    rw [List.cons_append, linesFrom_cons (continues_of_line hline hend),
      ih htail fun h => getLast?_tail_ne (hend h), List.reverse_cons, List.append_assoc]
    rfl

theorem unifyEnds_append (hline : '\n' ∉ line)
    (hend : rest.head? = some '\n' → line.getLast? ≠ some '\r') :
    unifyEnds (line ++ rest) = line ++ unifyEnds rest := by
  induction line with
  | nil => rfl
  | cons c line ih =>
    have htail : '\n' ∉ line := fun h => hline (List.mem_cons_of_mem c h)
    rw [List.cons_append, unifyEnds_cons (continues_of_line hline hend).2,
      ih htail fun h => getLast?_tail_ne (hend h), List.cons_append]

theorem Lined.linesFrom_eq (h : Lined cs ls) : linesFrom [] cs = ls := by
  induction h with
  | empty => rfl
  | last line hne hline =>
    have hpassed : linesFrom [] (line ++ []) = linesFrom (line.reverse ++ []) [] :=
      linesFrom_append hline (by simp)
    simpa [linesFrom, hne] using hpassed
  | newline line rest ls hline hreturn _ ih =>
    rw [linesFrom_append hline fun _ => hreturn]
    simp [linesFrom, ih]
  | returnNewline line rest ls hline _ ih =>
    rw [linesFrom_append hline (by simp)]
    simp [linesFrom, ih]

theorem Lined.eq_nil (h : Lined cs []) : cs = [] := by
  cases h
  rfl

/-- The open line has no newline in it and does not stop halfway through a line end. -/
theorem lined_append (hpending : '\n' ∉ pending)
    (hhalf : pending.head? = some '\r' → cs.head? ≠ some '\n') :
    Lined (pending.reverse ++ cs) (linesFrom pending cs) := by
  fun_induction linesFrom pending cs with
  | case1 pending hempty =>
    rw [List.isEmpty_iff.1 hempty]
    exact .empty
  | case2 pending hne =>
    rw [List.append_nil]
    refine .last _ (fun h => hne ?_) (by simpa using hpending)
    rw [List.reverse_eq_nil_iff.1 h]
    rfl
  | case3 pending rest ih =>
    exact .returnNewline _ _ _ (by simpa using hpending) (ih (by simp) (by simp))
  | case4 pending rest ih =>
    refine .newline _ _ _ (by simpa using hpending) ?_ (ih (by simp) (by simp))
    rw [List.getLast?_reverse]
    exact fun h => hhalf h rfl
  | case5 pending c rest hreturn hnewline ih =>
    have hopen : '\n' ∉ c :: pending := by
      intro h
      rcases List.mem_cons.1 h with h | h
      · exact hnewline h.symm
      · exact hpending h
    have hlined := ih hopen ?_
    · rwa [List.reverse_cons, List.append_assoc] at hlined
    · intro hc hhead
      obtain ⟨rest', rfl⟩ := List.head?_eq_some_iff.1 hhead
      exact hreturn rest' (Option.some.inj hc) rfl

theorem lined_iff : Lined cs ls ↔ ls = linesFrom [] cs := by
  constructor
  · intro h
    exact h.linesFrom_eq.symm
  · rintro rfl
    have hlined : Lined ([].reverse ++ cs) (linesFrom [] cs) := lined_append (by simp) (by simp)
    exact hlined

/-- Lines that are ended one by one may be left out of a join. -/
theorem flatMap_append_intercalate {sep : Char} {front back : List (List Char)}
    (hback : back ≠ []) :
    front.flatMap (· ++ [sep]) ++ [sep].intercalate back = [sep].intercalate (front ++ back) := by
  induction front with
  | nil => rfl
  | cons part front ih =>
    have hne : front ++ back ≠ [] := by simp [hback]
    rw [List.cons_append, List.intercalate_cons_of_ne_nil hne, ← ih]
    simp

/-- The newline at the end of a text. -/
def finalNewline (cs : List Char) : List Char := if cs.getLast? = some '\n' then ['\n'] else []

/-- A line and its end in front of a text that is joined from its lines. -/
theorem join_line (line : List Char) {ending : List Char} (hlined : Lined rest ls)
    (hending : ending.getLast? = some '\n')
    (hrest : unifyEnds rest = ['\n'].intercalate ls ++ finalNewline rest) :
    line ++ '\n' :: unifyEnds rest =
      ['\n'].intercalate (line :: ls) ++ finalNewline (line ++ (ending ++ rest)) := by
  by_cases hnil : rest = []
  · subst hnil
    have hls : ls = [] := hlined.linesFrom_eq.symm
    subst hls
    simp [unifyEnds, finalNewline, hending]
  · have hls : ls ≠ [] := by
      rintro rfl
      exact hnil hlined.eq_nil
    have hlast : (line ++ (ending ++ rest)).getLast? = rest.getLast? := by
      simp [List.getLast?_append, List.getLast?_eq_some_getLast hnil]
    rw [List.intercalate_cons_of_ne_nil hls, finalNewline, hlast, hrest, finalNewline]
    simp

/-- Newlines between the lines, and one at the end where the text has one. -/
theorem Lined.unifyEnds_eq (h : Lined cs ls) :
    unifyEnds cs = ['\n'].intercalate ls ++ finalNewline cs := by
  induction h with
  | empty => rfl
  | last line hne hline =>
    have hpassed : unifyEnds (line ++ []) = line ++ unifyEnds [] := unifyEnds_append hline (by simp)
    have hlast : line.getLast? ≠ some '\n' := fun h => hline (List.mem_of_getLast? h)
    simpa [unifyEnds, finalNewline, hlast] using hpassed
  | newline line rest ls hline hreturn hlined ih =>
    rw [unifyEnds_append hline fun _ => hreturn, unifyEnds_cons (by simp)]
    have hending : ['\n'].getLast? = some '\n' := rfl
    exact join_line line hlined hending ih
  | returnNewline line rest ls hline hlined ih =>
    rw [unifyEnds_append hline (by simp), unifyEnds]
    have hending : ['\r', '\n'].getLast? = some '\n' := rfl
    exact join_line line hlined hending ih

theorem unifyEnds_of_not_infix (h : ¬ ['\r', '\n'] <:+: cs) : unifyEnds cs = cs := by
  induction cs with
  | nil => rfl
  | cons c rest ih =>
    have hrest : ¬ ['\r', '\n'] <:+: rest := fun hin => h (hin.trans (List.suffix_cons c rest).isInfix)
    rw [unifyEnds_cons, ih hrest]
    rintro rfl hhead
    obtain ⟨rest', rfl⟩ := List.head?_eq_some_iff.1 hhead
    exact h (List.prefix_append ['\r', '\n'] rest').isInfix

theorem rows_eq_splitOn (s : String) :
    rows s = (s.toList.splitOn '\n').map String.ofList :=
  congrArg (List.map String.ofList)
    (eq_splitOnPPrepend (fun _ => rfl) (fun _ _ _ => rfl) [] s.toList)

theorem rows_injective {s t : String} (h : rows s = rows t) : s = t := by
  have hjoin (u : String) : ['\n'].intercalate ((rows u).map String.toList) = u.toList := by
    rw [rows_eq_splitOn, List.map_map]
    simp [Function.comp_def]
  apply String.toList_injective
  rw [← hjoin s, ← hjoin t, h]

end Assay.Text
